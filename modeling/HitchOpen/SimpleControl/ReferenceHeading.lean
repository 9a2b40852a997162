import HitchOpen.Common.Reals
import HitchOpen.SimpleControl.MpcController
import Mathlib.Analysis.SpecialFunctions.Complex.Arg

/-!
# The heading of the reference

The lateral plugin works out the heading of the path in two places.  Both take the direction to the
next waypoint.  At the last waypoint, which has none, `getReferencePath` takes the direction from the
waypoint before, while `calculateErrors` stays with zero: there the two agree only if the path ends
along the x axis.
-/

namespace HitchOpen.SimpleControl

open HitchOpen.Messages HitchOpen.Runtime

namespace Mpc

section Heading

variable {R : Type*} [Field R]

/-- `ref_psi` in `calculateErrors`. -/
def refPsi (c : MpcParams R) (path : Path R) (closestIdx : ℕ) (refPoint : PathPoint R) :
    Except Undefined R :=
  if closestIdx + 1 < path.points.length then do
    let nextPoint ← vectorAt path.points (closestIdx + 1)
    pure (heading c refPoint nextPoint)
  else pure 0

/-- The errors relative to a waypoint with a heading. -/
def errorsAt (c : MpcParams R) (vehicle : VehicleState R) (refPoint : PathPoint R) (refPsi : R) :
    MpcErrors R where
  cte := (vehicle.y - refPoint.position.y) * c.cos refPsi -
    (vehicle.x - refPoint.position.x) * c.sin refPsi
  epsi := c.atan2 (c.sin (vehicle.yaw - refPsi)) (c.cos (vehicle.yaw - refPsi))
  velocity := vehicle.velocity

/-- What `calculateErrors` uses the heading for. -/
theorem calculateErrors_eq (c : MpcParams R) (vehicle : VehicleState R) {path : Path R} {i : ℕ}
    {refPoint : PathPoint R} (h : path.points[i]? = some refPoint) :
    calculateErrors c vehicle path i =
      (refPsi c path i refPoint).map (errorsAt c vehicle refPoint) := by
  have hi := (List.getElem?_eq_some_iff.mp h).1
  rw [calculateErrors, if_neg (not_le.mpr hi), vectorAt_of_getElem? h, refPsi]
  by_cases hnext : i + 1 < path.points.length
  · simp only [if_pos hnext, vectorAt_of_getElem? (List.getElem?_eq_getElem hnext)]
    rfl
  · simp only [if_neg hnext]
    rfl

theorem refPsi_next (c : MpcParams R) {path : Path R} {i : ℕ} (refPoint : PathPoint R)
    {nextPoint : PathPoint R} (h : path.points[i + 1]? = some nextPoint) :
    refPsi c path i refPoint = .ok (heading c refPoint nextPoint) := by
  have hlt := (List.getElem?_eq_some_iff.mp h).1
  rw [refPsi, if_pos hlt, vectorAt_of_getElem? h]
  rfl

theorem refPsi_last (c : MpcParams R) {path : Path R} {i : ℕ} (refPoint : PathPoint R)
    (h : path.points.length ≤ i + 1) : refPsi c path i refPoint = .ok 0 :=
  if_neg (not_lt.mpr h)

/-! ### The first reference point -/

theorem referencePoint_next (c : MpcParams R) {path : Path R} {i : ℕ} {point next : PathPoint R}
    (hpoint : path.points[i]? = some point) (hnext : path.points[i + 1]? = some next) :
    referencePoint c path i 0 =
      .ok ⟨point.position.x, point.position.y, heading c point next, 0⟩ := by
  have hlt := (List.getElem?_eq_some_iff.mp hnext).1
  have hidx : min (i + 0) (path.points.length - 1) = i := by omega
  simp only [referencePoint, hidx, vectorAt_of_getElem? hpoint, if_pos hlt,
    vectorAt_of_getElem? hnext]
  rfl

theorem referencePoint_last (c : MpcParams R) {path : Path R} {i : ℕ} {point previous : PathPoint R}
    (hpoint : path.points[i + 1]? = some point) (hprevious : path.points[i]? = some previous)
    (hlast : path.points.length = i + 2) :
    referencePoint c path (i + 1) 0 =
      .ok ⟨point.position.x, point.position.y, heading c previous point, 0⟩ := by
  have hidx : min (i + 1 + 0) (path.points.length - 1) = i + 1 := by omega
  have hno : ¬ i + 1 + 1 < path.points.length := by omega
  simp only [referencePoint, hidx, vectorAt_of_getElem? hpoint, if_neg hno,
    if_pos (Nat.succ_pos i), gt_iff_lt, Nat.add_sub_cancel, vectorAt_of_getElem? hprevious]
  rfl

theorem referencePoint_only (c : MpcParams R) {path : Path R} {point : PathPoint R}
    (hpoint : path.points[0]? = some point) (honly : path.points.length = 1) :
    referencePoint c path 0 0 = .ok ⟨point.position.x, point.position.y, 0, 0⟩ := by
  have hidx : min (0 + 0) (path.points.length - 1) = 0 := by omega
  have hno : ¬ 0 + 1 < path.points.length := by omega
  simp only [referencePoint, hidx, vectorAt_of_getElem? hpoint, if_neg hno, gt_iff_lt,
    if_neg (Nat.lt_irrefl 0)]
  rfl

/-- A reference trajectory with a first point starts with the one at the start index. -/
theorem getReferencePath_head (c : MpcParams R) {path : Path R} {i : ℕ} {horizon : ℤ}
    (hi : i < path.points.length) (hhorizon : 1 ≤ horizon) :
    ∃ first rest, referencePoint c path i 0 = .ok first ∧
      getReferencePath c path i horizon = .ok (first :: rest) := by
  have hne : path.points ≠ [] := List.ne_nil_of_length_pos (by omega)
  obtain ⟨first, hfirst⟩ := referencePoint_ok c hne i 0
  obtain ⟨points, hpoints⟩ := getReferencePath_ok c hne i horizon
  have hrange : List.range horizon.toNat = 0 :: (List.range (horizon.toNat - 1)).map Nat.succ := by
    rw [← List.range_succ_eq_map]
    congr 1
    omega
  have hcons := hpoints
  rw [getReferencePath, hrange, List.mapM_cons] at hcons
  obtain ⟨first', hfirst', hcons⟩ := bind_ok_iff.mp hcons
  obtain rfl : first' = first := Except.ok.inj (hfirst'.symm.trans hfirst)
  obtain ⟨rest, -, hrest⟩ := bind_ok_iff.mp hcons
  refine ⟨first', rest, hfirst, ?_⟩
  rw [hpoints]
  exact hrest.symm

/-- The error computation and the reference trajectory give the closest waypoint the same heading. -/
def HeadingsAgree (c : MpcParams R) (path : Path R) (closestIdx : ℕ) (horizon : ℤ) : Prop :=
  ∃ refPoint psi first rest, path.points[closestIdx]? = some refPoint ∧
    refPsi c path closestIdx refPoint = .ok psi ∧
    getReferencePath c path closestIdx horizon = .ok (first :: rest) ∧ first.psi = psi

/-- The headings agree when the two functions give the same. -/
theorem headingsAgree_iff_eq {c : MpcParams R} {path : Path R} {i : ℕ} {horizon : ℤ}
    {point : PathPoint R} {psi : R} {first : ReferencePoint R} (hhorizon : 1 ≤ horizon)
    (hpoint : path.points[i]? = some point) (hpsi : refPsi c path i point = .ok psi)
    (hfirst : referencePoint c path i 0 = .ok first) :
    HeadingsAgree c path i horizon ↔ first.psi = psi := by
  obtain ⟨first', rest, hfirst', hpath⟩ :=
    getReferencePath_head c (List.getElem?_eq_some_iff.mp hpoint).1 hhorizon
  obtain rfl : first' = first := Except.ok.inj (hfirst'.symm.trans hfirst)
  refine ⟨?_, ?_⟩
  · rintro ⟨point', psi', first, rest', hpoint', hpsi', hpath', heq⟩
    obtain rfl : point = point' := Option.some.inj (hpoint.symm.trans hpoint')
    obtain rfl : psi = psi' := Except.ok.inj (hpsi.symm.trans hpsi')
    obtain ⟨rfl, -⟩ := List.cons.inj (Except.ok.inj (hpath.symm.trans hpath'))
    exact heq
  · intro heq
    exact ⟨point, psi, first', rest, hpoint, hpsi, hpath, heq⟩

variable [LinearOrder R] [IsStrictOrderedRing R]

/-- The path ends in the direction of the x axis. -/
def EndsAlongX (path : Path R) (last : ℕ) : Prop :=
  ∃ previous point, path.points[last - 1]? = some previous ∧ path.points[last]? = some point ∧
    point.position.y = previous.position.y ∧ previous.position.x ≤ point.position.x

/-- **The reference heading.**  The two computations agree at a waypoint exactly when it is not the
last, or the only one, or when the path ends in the direction of the x axis. -/
theorem headingsAgree_iff (c : MpcParams R)
    (hatan2 : ∀ y x, c.atan2 y x = 0 ↔ y = 0 ∧ 0 ≤ x) (path : Path R) (closestIdx : ℕ)
    (hidx : closestIdx < path.points.length) (horizon : ℤ) (hhorizon : 1 ≤ horizon) :
    HeadingsAgree c path closestIdx horizon ↔
      closestIdx + 1 < path.points.length ∨ path.points.length = 1 ∨ EndsAlongX path closestIdx := by
  have hpoint := List.getElem?_eq_getElem hidx
  by_cases hnext : closestIdx + 1 < path.points.length
  · have hn := List.getElem?_eq_getElem hnext
    rw [headingsAgree_iff_eq hhorizon hpoint (refPsi_next c _ hn) (referencePoint_next c hpoint hn)]
    exact iff_of_true rfl (.inl hnext)
  · cases closestIdx with
    | zero =>
        have honly : path.points.length = 1 := by omega
        rw [headingsAgree_iff_eq hhorizon hpoint (refPsi_last c _ (not_lt.mp hnext))
          (referencePoint_only c hpoint honly)]
        exact iff_of_true rfl (.inr (.inl honly))
    | succ i =>
        have hprevious := List.getElem?_eq_getElem (show i < path.points.length by omega)
        rw [headingsAgree_iff_eq hhorizon hpoint (refPsi_last c _ (not_lt.mp hnext))
          (referencePoint_last c hpoint hprevious (by omega))]
        dsimp only
        rw [heading, hatan2, sub_eq_zero, sub_nonneg]
        refine ⟨?_, ?_⟩
        · intro h
          exact .inr (.inr ⟨_, _, hprevious, hpoint, h⟩)
        · rintro (h | h | ⟨previous, point, hp, hq, h⟩)
          · exact absurd h hnext
          · omega
          · rw [Nat.add_sub_cancel, hprevious] at hp
            rw [hpoint] at hq
            rw [Option.some.inj hp, Option.some.inj hq]
            exact h

end Heading

/-! ### In the plane -/

/-- The parameters that `setup` declares, with the functions of the real numbers. -/
noncomputable def defaults : MpcParams ℝ where
  predictionHorizon := 10
  controlHorizon := 3
  dt := 1 / 10
  maxSteeringAngle := 13 / 25
  qCte := 1
  qEpsi := 1
  rDelta := 1 / 10
  sin := Real.sin
  cos := Real.cos
  atan2 y x := Complex.arg ⟨x, y⟩
  maxDouble := (2 ^ 53 - 1) * 2 ^ 971

theorem atan2_eq_zero_iff (y x : ℝ) : defaults.atan2 y x = 0 ↔ y = 0 ∧ 0 ≤ x := by
  show Complex.arg ⟨x, y⟩ = 0 ↔ _
  rw [Complex.arg_eq_zero_iff, and_comm]

/-- Two waypoints, the first of them at the origin. -/
def fromOrigin (x y : ℝ) : Path ℝ where
  header := ⟨0, "map"⟩
  points := [⟨⟨0, 0, 0⟩, 10⟩, ⟨⟨x, y, 0⟩, 10⟩]

/-- A path to the east, at its end. -/
theorem eastbound_headingsAgree : HeadingsAgree defaults (fromOrigin 1 0) 1 10 :=
  (headingsAgree_iff defaults atan2_eq_zero_iff (fromOrigin 1 0) 1 (by simp [fromOrigin]) 10
    (by decide)).mpr (.inr (.inr ⟨_, _, rfl, rfl, rfl, zero_le_one⟩))

/-- A path to the north, at its end: the errors are measured against a path to the east. -/
theorem northbound_not_headingsAgree :
    ¬ ∀ (path : Path ℝ) (closestIdx : ℕ) (horizon : ℤ), closestIdx < path.points.length →
      1 ≤ horizon → HeadingsAgree defaults path closestIdx horizon := by
  intro h
  have hnorth := h (fromOrigin 0 1) 1 10 (by simp [fromOrigin]) (by decide)
  have hpsi : refPsi defaults (fromOrigin 0 1) 1 ⟨⟨0, 1, 0⟩, 10⟩ = .ok 0 :=
    refPsi_last defaults _ (by simp [fromOrigin])
  rw [headingsAgree_iff_eq (by decide) rfl hpsi (referencePoint_last defaults rfl rfl rfl)] at hnorth
  have hzero := (atan2_eq_zero_iff _ _).mp hnorth
  norm_num at hzero

end Mpc

end HitchOpen.SimpleControl
