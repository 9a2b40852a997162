import HitchOpen.SimpleControl.ReferenceHeading
import Mathlib.Tactic.Ring

/-!
# Left and right

Seen in a mirror along the x axis, the lateral plugin steers the other way by the same angle.  The
search for the closest waypoint sees only squares; the headings, the errors and the feedback law change
their signs, and so does the angle remembered from the step before.

A heading that is exactly `pi`, the direction against the x axis, is its own mirror image, since `atan2`
has to choose a sign there.  In the reference heading this makes no difference, because only its sine
and cosine count; in the normalised heading error it does, and the symmetry fails.
-/

namespace HitchOpen.SimpleControl

open HitchOpen.Messages HitchOpen.Runtime

namespace Mpc

section Mirror

variable {R : Type*} [Field R]

/-- What is assumed of the trigonometric functions.  `atan2` is odd in its first argument, except where
its value is `pi`: there the first argument is zero. -/
structure AngleLaws (c : MpcParams R) (pi : R) : Prop where
  sin_neg : ∀ x, c.sin (-x) = -c.sin x
  cos_neg : ∀ x, c.cos (-x) = c.cos x
  sin_sub_turn : ∀ x, c.sin (x - (pi + pi)) = c.sin x
  cos_sub_turn : ∀ x, c.cos (x - (pi + pi)) = c.cos x
  sin_pi : c.sin pi = 0
  atan2_neg : ∀ y x, c.atan2 y x ≠ pi → c.atan2 (-y) x = -c.atan2 y x
  atan2_pi : ∀ y x, c.atan2 y x = pi → y = 0

def mirrorPoint (point : PathPoint R) : PathPoint R :=
  { point with position := { point.position with y := -point.position.y } }

def mirrorPath (path : Path R) : Path R := { path with points := path.points.map mirrorPoint }

def mirrorVehicle (vehicle : VehicleState R) : VehicleState R :=
  { vehicle with y := -vehicle.y, yaw := -vehicle.yaw }

def mirrorErrors (errors : MpcErrors R) : MpcErrors R :=
  { errors with cte := -errors.cte, epsi := -errors.epsi }

theorem mirrorPath_getElem? {path : Path R} {i : ℕ} {point : PathPoint R}
    (h : path.points[i]? = some point) : (mirrorPath path).points[i]? = some (mirrorPoint point) := by
  rw [mirrorPath, List.getElem?_map, h]
  rfl

theorem mirrorPath_length (path : Path R) : (mirrorPath path).points.length = path.points.length :=
  List.length_map _

/-! ### The errors -/

/-- The mirror image of a heading: the opposite one, or the same where that is `pi`. -/
def MirrorHeading (pi psi psi' : R) : Prop := psi' = -psi ∨ psi = pi ∧ psi' = pi

theorem heading_mirror {c : MpcParams R} {pi : R} (hangle : AngleLaws c pi) (a b : PathPoint R) :
    MirrorHeading pi (heading c a b) (heading c (mirrorPoint a) (mirrorPoint b)) := by
  have hy : (mirrorPoint b).position.y - (mirrorPoint a).position.y =
      -(b.position.y - a.position.y) := by
    show -b.position.y - -a.position.y = _
    ring
  have hx : (mirrorPoint b).position.x - (mirrorPoint a).position.x =
      b.position.x - a.position.x := rfl
  rw [heading, heading, hy, hx]
  by_cases hpi : c.atan2 (b.position.y - a.position.y) (b.position.x - a.position.x) = pi
  · refine .inr ⟨hpi, ?_⟩
    have hzero := hangle.atan2_pi _ _ hpi
    rw [hzero] at hpi ⊢
    rw [neg_zero, hpi]
  · exact .inl (hangle.atan2_neg _ _ hpi)

theorem refPsi_mirror {c : MpcParams R} {pi : R} (hangle : AngleLaws c pi) (path : Path R) (i : ℕ)
    (point : PathPoint R) :
    ∃ psi psi', refPsi c path i point = .ok psi ∧
      refPsi c (mirrorPath path) i (mirrorPoint point) = .ok psi' ∧ MirrorHeading pi psi psi' := by
  by_cases hnext : i + 1 < path.points.length
  · have hn := List.getElem?_eq_getElem hnext
    exact ⟨_, _, refPsi_next c point hn, refPsi_next c _ (mirrorPath_getElem? hn),
      heading_mirror hangle _ _⟩
  · have hlast := not_lt.mp hnext
    refine ⟨0, 0, refPsi_last c point hlast, refPsi_last c _ ?_, .inl neg_zero.symm⟩
    rw [mirrorPath_length]
    exact hlast

/-- The sine and the cosine of a mirrored heading. -/
theorem MirrorHeading.sin_cos {c : MpcParams R} {pi psi psi' : R} (hangle : AngleLaws c pi)
    (h : MirrorHeading pi psi psi') : c.sin psi' = -c.sin psi ∧ c.cos psi' = c.cos psi := by
  rcases h with rfl | ⟨rfl, rfl⟩
  · exact ⟨hangle.sin_neg psi, hangle.cos_neg psi⟩
  · refine ⟨?_, rfl⟩
    rw [hangle.sin_pi, neg_zero]

/-- The sine and the cosine of the heading error. -/
theorem MirrorHeading.sin_cos_sub {c : MpcParams R} {pi psi psi' : R} (hangle : AngleLaws c pi)
    (h : MirrorHeading pi psi psi') (yaw : R) :
    c.sin (-yaw - psi') = -c.sin (yaw - psi) ∧ c.cos (-yaw - psi') = c.cos (yaw - psi) := by
  rcases h with rfl | ⟨rfl, rfl⟩
  · have hneg : -yaw - -psi = -(yaw - psi) := by ring
    rw [hneg]
    exact ⟨hangle.sin_neg _, hangle.cos_neg _⟩
  · -- the two errors add up to a full turn
    have hturn : -yaw - psi' = -(yaw - psi') - (psi' + psi') := by ring
    rw [hturn, hangle.sin_sub_turn, hangle.cos_sub_turn]
    exact ⟨hangle.sin_neg _, hangle.cos_neg _⟩

theorem errorsAt_mirror {c : MpcParams R} {pi psi psi' : R} (hangle : AngleLaws c pi)
    (h : MirrorHeading pi psi psi') (vehicle : VehicleState R) (point : PathPoint R)
    (hpi : (errorsAt c vehicle point psi).epsi ≠ pi) :
    errorsAt c (mirrorVehicle vehicle) (mirrorPoint point) psi' =
      mirrorErrors (errorsAt c vehicle point psi) := by
  obtain ⟨hsin, hcos⟩ := h.sin_cos hangle
  obtain ⟨hsin', hcos'⟩ := h.sin_cos_sub hangle vehicle.yaw
  simp only [errorsAt, mirrorErrors, mirrorVehicle, mirrorPoint, MpcErrors.mk.injEq]
  refine ⟨?_, ?_, trivial⟩
  · rw [hsin, hcos]
    ring
  · rw [hsin', hcos', hangle.atan2_neg _ _ hpi]

theorem calculateErrors_mirror {c : MpcParams R} {pi : R} (hangle : AngleLaws c pi)
    (vehicle : VehicleState R) {path : Path R} {i : ℕ} {errors : MpcErrors R}
    (h : calculateErrors c vehicle path i = .ok errors) (hpi : errors.epsi ≠ pi) :
    calculateErrors c (mirrorVehicle vehicle) (mirrorPath path) i = .ok (mirrorErrors errors) := by
  by_cases hi : i < path.points.length
  · have hpoint := List.getElem?_eq_getElem hi
    obtain ⟨psi, psi', hpsi, hpsi', hmirror⟩ :=
      refPsi_mirror hangle path i path.points[i]
    rw [calculateErrors_eq c vehicle hpoint, hpsi] at h
    obtain rfl : errorsAt c vehicle path.points[i] psi = errors := Except.ok.inj h
    rw [calculateErrors_eq c _ (mirrorPath_getElem? hpoint), hpsi']
    exact congrArg Except.ok (errorsAt_mirror hangle hmirror vehicle _ hpi)
  · have hlength : i ≥ (mirrorPath path).points.length := by
      rw [mirrorPath_length]
      exact not_lt.mp hi
    rw [calculateErrors, if_pos (not_lt.mp hi)] at h
    obtain rfl := Except.ok.inj h
    rw [calculateErrors, if_pos hlength]
    simp [mirrorErrors, mirrorVehicle]

end Mirror

/-! ### The search and the feedback law -/

section Search

variable {R : Type*} [Field R] [Sqrt R]

theorem distanceTo_mirror (vehicle : VehicleState R) (point : PathPoint R) :
    distanceTo (mirrorVehicle vehicle) (mirrorPoint point) = distanceTo vehicle point := by
  simp only [distanceTo, mirrorVehicle, mirrorPoint]
  congr 1
  ring

variable [LinearOrder R]

theorem findClosestLoop_mirror (vehicle : VehicleState R) (points : List (PathPoint R)) :
    ∀ i minDistance closestIdx,
      findClosestLoop (mirrorVehicle vehicle) (points.map mirrorPoint) i minDistance closestIdx =
        findClosestLoop vehicle points i minDistance closestIdx := by
  induction points with
  | nil =>
      intro i minDistance closestIdx
      rfl
  | cons point points ih =>
      intro i minDistance closestIdx
      rw [List.map_cons, findClosestLoop, findClosestLoop, distanceTo_mirror, ih, ih]

theorem findClosestPoint_mirror (c : MpcParams R) (vehicle : VehicleState R) (path : Path R) :
    findClosestPoint c (mirrorVehicle vehicle) (mirrorPath path) = findClosestPoint c vehicle path :=
  findClosestLoop_mirror vehicle path.points 0 c.maxDouble 0

end Search

section Feedback

variable {R : Type*} [Field R] [LinearOrder R]

def mirrorState (m : MpcState R) : MpcState R := ⟨-m.previousSteering⟩

theorem solveMPC_mirror {c : MpcParams R} {pi : R} (hangle : AngleLaws c pi) (m : MpcState R)
    (vehicle : VehicleState R) (errors : MpcErrors R) :
    solveMPC c (mirrorState m) (mirrorVehicle vehicle) (mirrorErrors errors) =
      -solveMPC c m vehicle errors := by
  simp only [solveMPC, mirrorState, mirrorVehicle, mirrorErrors, hangle.sin_neg]
  ring

/-- The angle within the limits. -/
def limited (c : MpcParams R) (m : MpcState R) (vehicle : VehicleState R) (errors : MpcErrors R) : R :=
  clamp (solveMPC c m vehicle errors) (-c.maxSteeringAngle) c.maxSteeringAngle

variable [IsStrictOrderedRing R]

theorem clamp_neg {m : R} (hm : 0 ≤ m) (x : R) : clamp (-x) (-m) m = -clamp x (-m) m := by
  rw [clamp, clamp]
  by_cases hlow : x < -m
  · have hhigh : m < -x := lt_neg.mp hlow
    have hnot : ¬ -x < -m := not_lt.mpr ((neg_nonpos.mpr hm).trans (hm.trans hhigh.le))
    rw [if_pos hlow, if_neg hnot, if_pos hhigh, neg_neg]
  · rw [if_neg hlow]
    by_cases hhigh : m < x
    · rw [if_pos hhigh, if_pos (neg_lt_neg hhigh)]
    · have hnot : ¬ m < -x := fun h => hlow (lt_neg.mp h)
      rw [if_neg hhigh, if_neg hnot, if_neg (fun h => hhigh (neg_lt_neg_iff.mp h))]

theorem limited_mirror {c : MpcParams R} {pi : R} (hangle : AngleLaws c pi)
    (hmax : 0 ≤ c.maxSteeringAngle) (m : MpcState R) (vehicle : VehicleState R)
    (errors : MpcErrors R) :
    limited c (mirrorState m) (mirrorVehicle vehicle) (mirrorErrors errors) =
      -limited c m vehicle errors := by
  rw [limited, limited, solveMPC_mirror hangle, clamp_neg hmax]

end Feedback

/-! ### Runs -/

section Run

variable {R : Type*} [Field R] [LinearOrder R] [Sqrt R]

/-- What a step with a waypoint to follow comes to. -/
theorem runStep_drive (c : MpcParams R) (m : MpcState R) {vehicle : VehicleState R} {path : Path R}
    (hne : path.points ≠ []) {errors : MpcErrors R}
    (herrors : calculateErrors c vehicle path (findClosestPoint c vehicle path) = .ok errors)
    (control : Control R) :
    runStep c m ⟨some vehicle, some path⟩ control =
      .ok (⟨limited c m vehicle errors⟩, { control with
        steeringTireAngle := limited c m vehicle errors
        isDefinedSteeringTireRotationRate := false }) := by
  obtain ⟨points, hpoints⟩ :=
    getReferencePath_ok c hne (findClosestPoint c vehicle path) c.predictionHorizon
  simp only [runStep, if_neg hne, herrors, hpoints]
  rfl

/-- The angles that the plugin commands, one step after the other. -/
def steer (c : MpcParams R) : MpcState R → List (VehicleState R × Path R) → Except Undefined (List R)
  | _, [] => .ok []
  | m, (vehicle, path) :: states => do
      let (m, control) ← runStep c m ⟨some vehicle, some path⟩ newControl
      let angles ← steer c m states
      return control.steeringTireAngle :: angles

theorem steer_cons (c : MpcParams R) (m : MpcState R) {vehicle : VehicleState R} {path : Path R}
    (hne : path.points ≠ []) {errors : MpcErrors R}
    (herrors : calculateErrors c vehicle path (findClosestPoint c vehicle path) = .ok errors)
    {states : List (VehicleState R × Path R)} {angles : List R}
    (hrest : steer c ⟨limited c m vehicle errors⟩ states = .ok angles) :
    steer c m ((vehicle, path) :: states) = .ok (limited c m vehicle errors :: angles) := by
  rw [steer, runStep_drive c m hne herrors]
  show (steer c _ states).bind _ = _
  rw [hrest]
  rfl

def mirrorInput (input : VehicleState R × Path R) : VehicleState R × Path R :=
  (mirrorVehicle input.1, mirrorPath input.2)

/-- The heading error is another than `pi` at every step. -/
def NoneAtPi (c : MpcParams R) (pi : R) (states : List (VehicleState R × Path R)) : Prop :=
  ∀ input ∈ states, ∀ errors,
    calculateErrors c input.1 input.2 (findClosestPoint c input.1 input.2) = .ok errors →
    errors.epsi ≠ pi

variable [IsStrictOrderedRing R]

/-- **Symmetry.**  On the mirrored states, from the opposite angle, the plugin commands the opposite
angle at every step. -/
theorem steer_mirror (c : MpcParams R) (pi : R) (hangle : AngleLaws c pi)
    (hmax : 0 ≤ c.maxSteeringAngle) (states : List (VehicleState R × Path R))
    (hpaths : ∀ input ∈ states, input.2.points ≠ []) (hpi : NoneAtPi c pi states) (m : MpcState R) :
    ∃ angles, steer c m states = .ok angles ∧
      steer c (mirrorState m) (states.map mirrorInput) = .ok (angles.map fun angle => -angle) := by
  induction states generalizing m with
  | nil => exact ⟨[], rfl, rfl⟩
  | cons input states ih =>
      obtain ⟨vehicle, path⟩ := input
      obtain ⟨hne, hpaths⟩ := List.forall_mem_cons.mp hpaths
      obtain ⟨hpi₀, hpi⟩ := List.forall_mem_cons.mp hpi
      obtain ⟨errors, herrors⟩ :=
        calculateErrors_ok c vehicle path (findClosestPoint c vehicle path)
      have herrors' : calculateErrors c (mirrorVehicle vehicle) (mirrorPath path)
          (findClosestPoint c (mirrorVehicle vehicle) (mirrorPath path)) =
            .ok (mirrorErrors errors) := by
        rw [findClosestPoint_mirror]
        exact calculateErrors_mirror hangle vehicle herrors (hpi₀ errors herrors)
      have hne' : (mirrorPath path).points ≠ [] := fun h => hne (List.map_eq_nil_iff.mp h)
      have hangle' := limited_mirror hangle hmax m vehicle errors
      obtain ⟨angles, hangles, hangles'⟩ := ih hpaths hpi ⟨limited c m vehicle errors⟩
      refine ⟨limited c m vehicle errors :: angles, steer_cons c m hne herrors hangles, ?_⟩
      rw [List.map_cons, List.map_cons, ← hangle']
      refine steer_cons c (mirrorState m) hne' herrors' ?_
      rw [hangle']
      exact hangles'

end Run

/-! ### In the plane -/

theorem defaults_angleLaws : AngleLaws defaults Real.pi where
  sin_neg := Real.sin_neg
  cos_neg := Real.cos_neg
  sin_sub_turn x := by
    rw [← two_mul]
    exact Real.sin_sub_two_pi x
  cos_sub_turn x := by
    rw [← two_mul]
    exact Real.cos_sub_two_pi x
  sin_pi := Real.sin_pi
  atan2_neg y x h := by
    have hconj := Complex.arg_conj ⟨x, y⟩
    exact hconj.trans (if_neg h)
  atan2_pi y x h := (Complex.arg_eq_pi_iff.mp h).2

/-- A heading error whose sine is not zero, or whose cosine is not negative, is another than `pi`. -/
theorem epsi_ne_pi (vehicle : VehicleState ℝ) (point : PathPoint ℝ) (psi : ℝ)
    (h : Real.sin (vehicle.yaw - psi) = 0 → 0 ≤ Real.cos (vehicle.yaw - psi)) :
    (errorsAt defaults vehicle point psi).epsi ≠ Real.pi := by
  intro hpi
  obtain ⟨hcos, hsin⟩ := Complex.arg_eq_pi_iff.mp hpi
  exact absurd (h hsin) (not_le.mpr hcos)

/-- A bend of the track: ten metres to the east, ten to the north and ten back to the west. -/
noncomputable def bend : Path ℝ where
  header := ⟨0, "map"⟩
  points := [⟨⟨0, 0, 0⟩, 10⟩, ⟨⟨10, 0, 0⟩, 10⟩, ⟨⟨10, 10, 0⟩, 10⟩, ⟨⟨0, 10, 0⟩, 10⟩]

/-- The headings of the three legs, and zero at the end of the last one. -/
theorem bend_refPsi {i : ℕ} {point : PathPoint ℝ} (h : bend.points[i]? = some point) :
    ∃ psi, refPsi defaults bend i point = .ok psi ∧ (psi = 0 ∨ psi = Real.pi / 2 ∨ psi = Real.pi) := by
  match i with
  | 0 =>
      obtain rfl := Option.some.inj h
      refine ⟨_, refPsi_next defaults _ rfl, .inl ?_⟩
      exact (atan2_eq_zero_iff _ _).mpr (by norm_num)
  | 1 =>
      obtain rfl := Option.some.inj h
      refine ⟨_, refPsi_next defaults _ rfl, .inr (.inl ?_)⟩
      exact Complex.arg_eq_pi_div_two_iff.mpr (by norm_num)
  | 2 =>
      obtain rfl := Option.some.inj h
      refine ⟨_, refPsi_next defaults _ rfl, .inr (.inr ?_)⟩
      exact Complex.arg_eq_pi_iff.mpr (by norm_num)
  | i + 3 => exact ⟨0, refPsi_last defaults _ (Nat.le_add_left 4 i), .inl rfl⟩

/-- No vehicle that faces north, more or less, is turned around on the bend. -/
theorem bend_epsi {vehicle : VehicleState ℝ} (hyaw : 0 < Real.sin vehicle.yaw) {i : ℕ}
    {errors : MpcErrors ℝ} (h : calculateErrors defaults vehicle bend i = .ok errors) :
    errors.epsi ≠ Real.pi := by
  by_cases hi : i < bend.points.length
  · have hpoint := List.getElem?_eq_getElem hi
    obtain ⟨psi, hpsi, hleg⟩ := bend_refPsi hpoint
    rw [calculateErrors_eq defaults vehicle hpoint, hpsi] at h
    obtain rfl := Except.ok.inj h
    refine epsi_ne_pi vehicle _ psi fun hsin => ?_
    rcases hleg with rfl | rfl | rfl
    · rw [sub_zero] at hsin
      exact absurd hsin hyaw.ne'
    · rw [Real.cos_sub_pi_div_two]
      exact hyaw.le
    · rw [Real.sin_sub_pi, neg_eq_zero] at hsin
      exact absurd hsin hyaw.ne'
  · rw [calculateErrors, if_pos (not_lt.mp hi)] at h
    obtain rfl := Except.ok.inj h
    exact Real.pi_ne_zero.symm

/-- Through the bend: next to the first leg, then the second, then the third. -/
noncomputable def throughBend : List (VehicleState ℝ × Path ℝ) :=
  [(⟨0, 1, 1 / 2, 10⟩, bend), (⟨11, 0, 1, 10⟩, bend), (⟨9, 11, 3 / 2, 10⟩, bend)]

theorem throughBend_noneAtPi : NoneAtPi defaults Real.pi throughBend := by
  intro input hinput errors h
  have hbend : input.2 = bend ∧ 0 < input.1.yaw ∧ input.1.yaw < 2 := by
    simp only [throughBend, List.mem_cons, List.not_mem_nil, or_false] at hinput
    rcases hinput with rfl | rfl | rfl <;> norm_num
  obtain ⟨hpath, hpos, hlt⟩ := hbend
  rw [hpath] at h
  exact bend_epsi (Real.sin_pos_of_pos_of_lt_pi hpos (hlt.trans_le Real.two_le_pi)) h

theorem throughBend_mirror :
    ∃ angles, steer defaults ⟨0⟩ throughBend = .ok angles ∧
      steer defaults (mirrorState ⟨0⟩) (throughBend.map mirrorInput) =
        .ok (angles.map fun angle => -angle) :=
  steer_mirror defaults Real.pi defaults_angleLaws (by norm_num [defaults]) throughBend
    (by simp [throughBend, bend]) throughBend_noneAtPi ⟨0⟩

end Mpc

end HitchOpen.SimpleControl
