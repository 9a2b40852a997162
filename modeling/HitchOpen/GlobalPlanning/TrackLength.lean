import HitchOpen.GlobalPlanning.LocalPath
import Mathlib.Algebra.BigOperators.Intervals

/-!
# The length of the local path

`local_path_length_m` is the length of the local path in metres.  The search for its end adds up
distances until they reach it, but what it adds up for a waypoint is the distance from the vehicle, not
the one from the waypoint before, and what they have to reach is the parameter cut down to an integer.

`selectsByLength_iff` says when the waypoint that is found is nevertheless the one at that length along
the track: when, waypoint by waypoint, both sums reach their lengths at the same time.
-/

namespace HitchOpen.GlobalPlanning

open HitchOpen.ClosedTrack HitchOpen.FirstMinimum HitchOpen.Messages HitchOpen.Runtime

section Length

variable {R : Type} [Field R] [Sqrt R]

/-- From a waypoint of the closed track to the next one. -/
def segmentLength (path : Path R) (i : ℕ) : R :=
  match path.points[i % path.points.length]?, path.points[(i + 1) % path.points.length]? with
  | some a, some b => calculateDistance a.position b.position
  | _, _ => 0

/-- Along the track from the waypoint `start`, `j` waypoints ahead. -/
def trackLength (path : Path R) (start j : ℕ) : R :=
  ∑ i ∈ Finset.range j, segmentLength path (start + i)

variable [LinearOrder R]

theorem segmentLength_nonneg (hsqrt : ∀ x : R, 0 ≤ sqrt x) (path : Path R) (i : ℕ) :
    0 ≤ segmentLength path i := by
  rw [segmentLength]
  split
  · exact hsqrt _
  · exact le_refl 0

theorem distances_nonneg (hsqrt : ∀ x : R, 0 ≤ sqrt x) (path : Path R) (position : Point3D R) :
    ∀ d ∈ distances path position, 0 ≤ d := by
  intro d hd
  obtain ⟨point, -, rfl⟩ := List.mem_map.mp hd
  exact hsqrt _

variable [IsStrictOrderedRing R]

theorem trackLength_monotone (hsqrt : ∀ x : R, 0 ≤ sqrt x) (path : Path R) (start : ℕ) :
    Monotone (trackLength path start) := by
  refine monotone_nat_of_le_succ fun j => ?_
  rw [trackLength, trackLength, Finset.sum_range_succ]
  exact le_add_of_nonneg_right (segmentLength_nonneg hsqrt path _)

end Length

section Search

variable {R : Type} [Field R] [Sqrt R] [LinearOrder R] [FloorSemiring R]

/-- The index that `publishLocalPath` obtains for the end of the local path is the first one, going
forward from the closest waypoint, that lies `length` ahead along the track, or else the last one
before the round is complete. -/
def SelectsByLength (path : Path R) (position : Point3D R) (length : R) : Prop :=
  ∃ searchRadius closest k, sizeTOfDouble length = .ok searchRadius ∧
    FirstMin (distanceTo position) path.points closest ∧
    StopsAfter (trackLength path closest) length (path.points.length - 1) k ∧
    findNextWaypoint path position searchRadius =
      .ok (closest, (closest + k) % path.points.length)

/-- Waypoint by waypoint, the distances from the vehicle reach the integral part of the length when the
way along the track reaches the length. -/
def ReachTogether (path : Path R) (position : Point3D R) (length : R) : Prop :=
  FitsSizeT length ∧ ∃ closest, FirstMin (distanceTo position) path.points closest ∧
    ∀ m < path.points.length - 1,
      ((⌊length⌋₊ : R) ≤ paid (distances path position) closest m ↔
        length ≤ trackLength path closest m)

/-- What is found then has the length along the track. -/
theorem SelectsByLength.stopsAfter {path : Path R} {position : Point3D R} {length : R}
    (h : SelectsByLength path position length) (searchRadius closest k : ℕ)
    (hradius : sizeTOfDouble length = .ok searchRadius) (hk : k ≤ path.points.length - 1)
    (hfind : findNextWaypoint path position searchRadius =
      .ok (closest, (closest + k) % path.points.length)) :
    StopsAfter (trackLength path closest) length (path.points.length - 1) k := by
  obtain ⟨radius, start, j, hradius', hfirst, hj, hfind'⟩ := h
  obtain rfl : searchRadius = radius := Except.ok.inj (hradius.symm.trans hradius')
  obtain ⟨rfl, hindex⟩ := Prod.mk.inj (Except.ok.inj (hfind.symm.trans hfind'))
  have hlength := hfirst.lt_length
  have hlimit := hj.le_limit
  obtain rfl : k = j := ahead_inj (by omega) (by omega) hindex
  exact hj

/-- Nothing is selected by length when the search stops before the end of the round, at a waypoint that
lies less than the length ahead. -/
theorem not_selectsByLength {path : Path R} {position : Point3D R} {length : R}
    {searchRadius closest k : ℕ} (hradius : sizeTOfDouble length = .ok searchRadius)
    (hk : k < path.points.length - 1)
    (hfind : findNextWaypoint path position searchRadius =
      .ok (closest, (closest + k) % path.points.length))
    (hshort : ¬ length ≤ trackLength path closest k) : ¬ SelectsByLength path position length := by
  intro h
  have hstop := h.stopsAfter searchRadius closest k hradius hk.le hfind
  rcases hstop.stop with hround | hlength
  · exact absurd hround hk.ne
  · exact hshort hlength

variable [IsStrictOrderedRing R]

/-- **The length of the local path.**  The waypoint at that length is selected exactly when both sums
reach their lengths together. -/
theorem selectsByLength_iff (hsqrt : ∀ x : R, 0 ≤ sqrt x) (path : Path R) (position : Point3D R)
    (length : R) (hne : path.points ≠ []) :
    SelectsByLength path position length ↔ ReachTogether path position length := by
  have hclosest := findClosestWaypoint_firstMin position hne
  by_cases hfit : FitsSizeT length
  · obtain ⟨k, hk, hfind⟩ := findNextWaypoint_stopsAfter position ⌊length⌋₊ hne
    have hradius := sizeTOfDouble_ok hfit
    have hsame : ∀ {j}, StopsAfter (trackLength path (findClosestWaypoint path position)) length
        (path.points.length - 1) j → (k = j ↔ ∀ m < path.points.length - 1,
          ((⌊length⌋₊ : R) ≤ paid (distances path position) (findClosestWaypoint path position) m ↔
            length ≤ trackLength path (findClosestWaypoint path position) m)) := fun hj =>
      hk.eq_iff hj (paid_monotone (distances_nonneg hsqrt path position) _)
        (trackLength_monotone hsqrt path _)
    refine ⟨?_, ?_⟩
    · intro h
      exact ⟨hfit, _, hclosest, (hsame (h.stopsAfter _ _ k hradius hk.le_limit hfind)).mp rfl⟩
    · rintro ⟨-, closest, hfirst, htogether⟩
      obtain rfl := hclosest.unique hfirst
      obtain ⟨j, hj⟩ := exists_stopsAfter (trackLength path (findClosestWaypoint path position)) length
        (path.points.length - 1)
      obtain rfl : k = j := (hsame hj).mpr htogether
      exact ⟨⌊length⌋₊, _, k, hradius, hclosest, hj, hfind⟩
  · refine iff_of_false ?_ (fun h => hfit h.1)
    rintro ⟨searchRadius, _, _, hradius, -⟩
    rw [sizeTOfDouble_error hfit] at hradius
    cases hradius

end Search

/-- Four waypoints on a straight, a metre apart. -/
def everyMetre : Path ℚ where
  header := ⟨0, "map"⟩
  points := [⟨⟨0, 0, 0⟩, 10⟩, ⟨⟨1, 0, 0⟩, 10⟩, ⟨⟨2, 0, 0⟩, 10⟩, ⟨⟨3, 0, 0⟩, 10⟩]

theorem everyMetre_firstMin :
    FirstMin (distanceTo (⟨0, 0, 0⟩ : Point3D ℚ)) everyMetre.points 0 := by
  have hindex : minElement (distanceTo (⟨0, 0, 0⟩ : Point3D ℚ)) everyMetre.points = 0 := by
    decide +kernel
  rw [← hindex]
  exact minElement_firstMin _ (List.cons_ne_nil _ _)

/-- At the first waypoint, looking one metre ahead. -/
theorem everyMetre_selectsByLength : SelectsByLength everyMetre ⟨0, 0, 0⟩ 1 :=
  (selectsByLength_iff (fun x => Rat.sqrt_nonneg x) everyMetre ⟨0, 0, 0⟩ 1
    (List.cons_ne_nil _ _)).mpr ⟨by decide +kernel, 0, everyMetre_firstMin, by decide +kernel⟩

/-- Looking three metres ahead, the search stops two metres ahead, where the distances from the vehicle
add up to three.  Looking half a metre ahead, it does not move at all. -/
theorem everyMetre_falls_short :
    ¬ SelectsByLength everyMetre ⟨0, 0, 0⟩ 3 ∧ ¬ SelectsByLength everyMetre ⟨0, 0, 0⟩ (1 / 2) := by
  refine ⟨?_, ?_⟩
  · have hfind : findNextWaypoint everyMetre ⟨0, 0, 0⟩ 3 = .ok (0, 2) := by decide +kernel
    exact not_selectsByLength (k := 2) (by decide +kernel) (by decide) hfind (by decide +kernel)
  · have hfind : findNextWaypoint everyMetre ⟨0, 0, 0⟩ 0 = .ok (0, 0) := by decide +kernel
    exact not_selectsByLength (k := 0) (by decide +kernel) (by decide) hfind (by decide +kernel)

end HitchOpen.GlobalPlanning
