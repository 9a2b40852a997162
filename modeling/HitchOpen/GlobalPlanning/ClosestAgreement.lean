import HitchOpen.GlobalPlanning.LocalPath
import HitchOpen.SimpleControl.ReferenceHeading

/-!
# The planner and the controller look for the same waypoint

The planner looks for the closest waypoint of the whole track in space and sends the controller the
part of the track that starts there; the controller looks for the closest waypoint once more, in the
plane and with a loop of its own.  On a level track the two distances are ordered alike, so that the
controller finds the waypoint the planner has found, at the front of what it was sent.
-/

namespace HitchOpen.GlobalPlanning

open HitchOpen.EventMachine HitchOpen.FirstMinimum HitchOpen.Messages HitchOpen.Runtime
open HitchOpen.SimpleControl

section Search

variable {R : Type*} [Field R] [LinearOrder R] [Sqrt R]

/-- **Loop lemma.**  The loop keeps its candidate when nothing that follows is closer. -/
theorem findClosestLoop_of_le (vehicle : VehicleState R) (points : List (PathPoint R)) :
    ∀ i minDistance closestIdx, (∀ point ∈ points, minDistance ≤ Mpc.distanceTo vehicle point) →
      Mpc.findClosestLoop vehicle points i minDistance closestIdx = closestIdx := by
  induction points with
  | nil =>
      intro i minDistance closestIdx _
      rfl
  | cons point points ih =>
      intro i minDistance closestIdx hle
      obtain ⟨hpoint, hpoints⟩ := List.forall_mem_cons.mp hle
      rw [Mpc.findClosestLoop, if_neg (not_lt.mpr hpoint)]
      exact ih (i + 1) minDistance closestIdx hpoints

/-- When the first waypoint is one of the closest, it is the one that is found, even if its distance is
beyond the largest `double`. -/
theorem findClosestPoint_first (m : MpcParams R) (vehicle : VehicleState R) {path : Path R}
    {first : PathPoint R} {rest : List (PathPoint R)} (hpoints : path.points = first :: rest)
    (hle : ∀ point ∈ rest, Mpc.distanceTo vehicle first ≤ Mpc.distanceTo vehicle point) :
    Mpc.findClosestPoint m vehicle path = 0 := by
  rw [Mpc.findClosestPoint, hpoints, Mpc.findClosestLoop]
  by_cases hlt : Mpc.distanceTo vehicle first < m.maxDouble
  · rw [if_pos hlt]
    exact findClosestLoop_of_le vehicle rest _ _ _ hle
  · rw [if_neg hlt]
    exact findClosestLoop_of_le vehicle rest _ _ _ fun point hpoint =>
      (not_lt.mp hlt).trans (hle point hpoint)

end Search

/-! ### A level track -/

/-- At one height, what is closer in space is closer in the plane. -/
theorem planar_le {vehicle : VehicleState ℝ} {position : Point3D ℝ} {a b : PathPoint ℝ}
    (hx : vehicle.x = position.x) (hy : vehicle.y = position.y) (hz : a.position.z = b.position.z)
    (hle : distanceTo position a ≤ distanceTo position b) :
    Mpc.distanceTo vehicle a ≤ Mpc.distanceTo vehicle b := by
  have hnonneg : 0 ≤ (b.position.x - position.x) ^ 2 + (b.position.y - position.y) ^ 2 +
      (b.position.z - position.z) ^ 2 := by positivity
  have hsum := (Real.sqrt_le_sqrt_iff hnonneg).mp hle
  rw [hz] at hsum
  apply Real.sqrt_le_sqrt
  rw [hx, hy]
  linarith

/-- A slice of the track begins with the waypoint at its start. -/
theorem exists_slice_cons {points : List (PathPoint ℝ)} {first : PathPoint ℝ} {start last : ℕ}
    (hfirst : points[start]? = some first) (hle : start ≤ last) :
    ∃ rest, (points.take (last + 1)).drop start = first :: rest ∧ ∀ point ∈ rest, point ∈ points := by
  have htake : (points.take (last + 1))[start]? = some first := by
    rw [List.getElem?_take_of_lt (Nat.lt_succ_of_le hle), hfirst]
  obtain ⟨hindex, hget⟩ := List.getElem?_eq_some_iff.mp htake
  have hslice := List.drop_eq_getElem_cons hindex
  rw [hget] at hslice
  refine ⟨_, hslice, ?_⟩
  intro point hpoint
  exact List.mem_of_mem_take (List.mem_of_mem_drop hpoint)

/-- An end that is found is a position of the track. -/
theorem findNextWaypoint_lt {path : Path ℝ} {position : Point3D ℝ} {searchRadius closest next : ℕ}
    (h : findNextWaypoint path position searchRadius = .ok (closest, next)) :
    closest = findClosestWaypoint path position ∧ path.points ≠ [] ∧ next < path.points.length := by
  by_cases hne : path.points = []
  · rw [findNextWaypoint, hne] at h
    cases h
  · obtain ⟨k, -, hfind⟩ := findNextWaypoint_stopsAfter position searchRadius hne
    obtain ⟨rfl, rfl⟩ := Prod.mk.inj (Except.ok.inj (h.symm.trans hfind))
    exact ⟨rfl, hne, Nat.mod_lt _ (List.length_pos_iff.mpr hne)⟩

/-- **Closest waypoints.**  On a level track, when the end of the local path does not lie before its
start, the local path is published and the controller finds its first waypoint, which is the one that
the planner has found. -/
theorem findClosestPoint_localPath (c : Config ℝ) (m : MpcParams ℝ) (s : State ℝ) (path : Path ℝ)
    (position : Point3D ℝ) (vehicle : VehicleState ℝ) (now : ℝ) (searchRadius closest next : ℕ)
    (hgps : s.receivedGps = true) (hposition : s.currentPosition = some position)
    (hpath : s.globalPath = some path)
    (hlevel : ∀ a ∈ path.points, ∀ b ∈ path.points, a.position.z = b.position.z)
    (hx : vehicle.x = position.x) (hy : vehicle.y = position.y)
    (hradius : sizeTOfDouble c.localPathLengthM = .ok searchRadius)
    (hnext : findNextWaypoint path position searchRadius = .ok (closest, next))
    (hahead : closest ≤ next) :
    ∃ s' message vis first, publishLocalPath c s now = .done s' (.localPath message :: vis) ∧
      Mpc.findClosestPoint m vehicle message = 0 ∧ message.points[0]? = some first ∧
      path.points[findClosestWaypoint path position]? = some first := by
  obtain ⟨rfl, hne, hlt⟩ := findNextWaypoint_lt hnext
  obtain ⟨first, hfirst, hmin, -⟩ := findClosestWaypoint_firstMin position hne
  have hcopy := localPathPoints_eq hradius hnext
  rw [iteratorRange_ok (Nat.le_succ_of_le hahead) hlt] at hcopy
  have hpublish := publishLocalPath_eq c now hgps hposition hpath hne
  rw [hcopy] at hpublish
  obtain ⟨rest, hslice, hmem⟩ := exists_slice_cons hfirst hahead
  refine ⟨_, _, _, first, hpublish, ?_, ?_, hfirst⟩
  · refine findClosestPoint_first m vehicle hslice fun point hpoint => ?_
    exact planar_le hx hy (hlevel first (List.mem_of_getElem? hfirst) point (hmem point hpoint))
      (hmin point (hmem point hpoint))
  · show ((path.points.take (next + 1)).drop (findClosestWaypoint path position))[0]? = some first
    rw [hslice]
    rfl

/-- Two waypoints a metre apart, on the ground. -/
def oneMetre : Path ℝ where
  header := ⟨0, "map"⟩
  points := [⟨⟨0, 0, 0⟩, 10⟩, ⟨⟨1, 0, 0⟩, 10⟩]

/-- A planner that looks one metre ahead. -/
def oneMetreAhead : Config ℝ where
  localPathLengthM := 1
  visualize := false
  stod := fun _ => none
  forward := fun _ x y z => ⟨x, y, z⟩

/-- The vehicle is at the first of the two waypoints. -/
noncomputable def atFirst : State ℝ :=
  { (initial : State ℝ) with
    globalPath := some oneMetre, receivedGps := true, currentPosition := some ⟨0, 0, 0⟩ }

theorem oneMetre_distances :
    distanceTo (⟨0, 0, 0⟩ : Point3D ℝ) ⟨⟨0, 0, 0⟩, 10⟩ = 0 ∧
      distanceTo (⟨0, 0, 0⟩ : Point3D ℝ) ⟨⟨1, 0, 0⟩, 10⟩ = 1 := by
  simp [distanceTo, calculateDistance, sqrt_real]

theorem oneMetre_next : findNextWaypoint oneMetre ⟨0, 0, 0⟩ 1 = .ok (0, 1) := by
  obtain ⟨hfirst, hsecond⟩ := oneMetre_distances
  have hclosest : findClosestWaypoint oneMetre ⟨0, 0, 0⟩ = 0 := by
    have hnot : ¬ distanceTo (⟨0, 0, 0⟩ : Point3D ℝ) ⟨⟨1, 0, 0⟩, 10⟩ <
        distanceTo (⟨0, 0, 0⟩ : Point3D ℝ) ⟨⟨0, 0, 0⟩, 10⟩ := by
      rw [hfirst, hsecond]
      exact not_lt.mpr zero_le_one
    exact if_neg hnot
  have hloop : findNextLoop oneMetre ⟨0, 0, 0⟩ 0 ((1 : ℕ) : ℝ) 2 0 0 = .ok 1 := by
    rw [Nat.cast_one, findNextLoop, if_pos zero_lt_one]
    show findNextLoop oneMetre ⟨0, 0, 0⟩ 0 1 1 1
      (0 + distanceTo (⟨0, 0, 0⟩ : Point3D ℝ) ⟨⟨1, 0, 0⟩, 10⟩) = .ok 1
    rw [hsecond, zero_add, findNextLoop, if_neg (lt_irrefl 1)]
  rw [findNextWaypoint, hclosest]
  show (findNextLoop oneMetre ⟨0, 0, 0⟩ 0 ((1 : ℕ) : ℝ) 2 0 0).bind _ = _
  rw [hloop]
  rfl

theorem oneMetre_radius : sizeTOfDouble oneMetreAhead.localPathLengthM = .ok 1 := by
  have hfit : FitsSizeT oneMetreAhead.localPathLengthM := by norm_num [FitsSizeT, oneMetreAhead]
  rw [sizeTOfDouble_ok hfit]
  exact congrArg Except.ok Nat.floor_one

/-- The controller at the first of the two waypoints. -/
theorem oneMetre_first :
    ∃ s' message vis first, publishLocalPath oneMetreAhead atFirst 5 =
        .done s' (.localPath message :: vis) ∧
      Mpc.findClosestPoint Mpc.defaults ⟨0, 0, 0, 0⟩ message = 0 ∧ message.points[0]? = some first ∧
      oneMetre.points[findClosestWaypoint oneMetre ⟨0, 0, 0⟩]? = some first :=
  findClosestPoint_localPath oneMetreAhead Mpc.defaults atFirst oneMetre ⟨0, 0, 0⟩ ⟨0, 0, 0, 0⟩ 5 1 0 1
    rfl rfl rfl (by simp [oneMetre]) rfl rfl oneMetre_radius oneMetre_next (Nat.zero_le 1)

end HitchOpen.GlobalPlanning
