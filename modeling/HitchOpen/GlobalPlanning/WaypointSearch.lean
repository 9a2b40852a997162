import HitchOpen.GlobalPlanning.PlanningNode
import HitchOpen.Library.ClosedTrack

/-!
# How long the search for the next waypoint takes

The loop of `findNextWaypoint` ends on a distance that need not grow or on the return to the start.  In
the model it spends a unit of fuel every time its condition is evaluated, that is, one for every move of
the index and one more.  Given any amount of fuel, the loop returns when it suffices for the moves of
the walk and has run out otherwise; in neither case does it read past the end of the track.
-/

namespace HitchOpen.GlobalPlanning

open HitchOpen.ClosedTrack HitchOpen.FirstMinimum HitchOpen.Messages HitchOpen.Runtime

section Walk

variable {R : Type} [Field R] [Sqrt R]

/-- The distances of the waypoints from the vehicle, in the order of the file. -/
def distances (path : Path R) (position : Point3D R) : List R :=
  path.points.map (distanceTo position)

theorem distances_length (path : Path R) (position : Point3D R) :
    (distances path position).length = path.points.length := List.length_map _

theorem distances_getD {path : Path R} {position : Point3D R} {i : ℕ} {point : PathPoint R}
    (h : path.points[i]? = some point) :
    (distances path position).getD i 0 = distanceTo position point := by
  rw [distances, List.getD_eq_getElem?_getD, List.getElem?_map, h]
  rfl

variable [LinearOrder R]

theorem findClosestWaypoint_firstMin {path : Path R} (position : Point3D R)
    (hne : path.points ≠ []) :
    FirstMin (distanceTo position) path.points (findClosestWaypoint path position) :=
  minElement_firstMin (distanceTo position) hne

/-- **Loop lemma.**  A walk that makes `k` moves in all and has made `j` of them needs fuel for the
other ones, and a unit to find out that it has ended. -/
theorem findNextLoop_fuel {path : Path R} (position : Point3D R) (radius : R) {start k : ℕ}
    (hstart : start < path.points.length)
    (hk : StopsAfter (paid (distances path position) start) radius (path.points.length - 1) k)
    (fuel : ℕ) :
    ∀ j ≤ k, findNextLoop path position start radius fuel ((start + j) % path.points.length)
        (paid (distances path position) start j) =
      if k < j + fuel then .ok ((start + k) % path.points.length) else .error .diverges := by
  induction fuel with
  | zero =>
      intro j hj
      rw [if_neg (by omega)]
      rfl
  | succ fuel ih =>
      intro j hj
      have hlimit := hk.le_limit
      have hnext : ((start + j) % path.points.length + 1) % path.points.length =
          (start + j + 1) % path.points.length := Nat.mod_add_mod _ _ _
      rw [findNextLoop, hnext]
      rcases Nat.lt_or_eq_of_le hj with hlt | rfl
      · -- there is another move to make
        have hback : (start + j + 1) % path.points.length ≠ start := fun h => by
          have hround := (ahead_eq_start_iff hstart (by omega)).mp h
          omega
        have hpoint := List.getElem?_eq_getElem
          (show (start + j + 1) % path.points.length < path.points.length from
            Nat.mod_lt _ (by omega))
        have hrest := ih (j + 1) hlt
        rw [paid_succ, distances_length, distances_getD hpoint, ← Nat.add_assoc] at hrest
        rw [if_pos (hk.short j hlt)]
        simp only [if_neg hback, vectorAt_of_getElem? hpoint]
        show findNextLoop path position start radius fuel _ _ = _
        rw [hrest, show j + 1 + fuel = j + (fuel + 1) by omega]
      · -- the walk has ended
        rw [if_pos (show j < j + (fuel + 1) by omega)]
        by_cases hpaid : paid (distances path position) start j < radius
        · have hround : j + 1 = path.points.length := by
            rcases hk.stop with hend | hreach
            · omega
            · exact absurd hpaid (not_lt.mpr hreach)
          have hback := (ahead_eq_start_iff hstart (by omega)).mpr hround
          rw [if_pos hpaid]
          simp only [hback, if_pos]
        · rw [if_neg hpaid]

/-- **The search.**  It returns the first of the closest waypoints and the end of a walk from there. -/
theorem findNextWaypoint_stopsAfter {path : Path R} (position : Point3D R) (searchRadius : ℕ)
    (hne : path.points ≠ []) :
    ∃ k, StopsAfter (paid (distances path position) (findClosestWaypoint path position))
        (searchRadius : R) (path.points.length - 1) k ∧
      findNextWaypoint path position searchRadius =
        .ok (findClosestWaypoint path position,
          (findClosestWaypoint path position + k) % path.points.length) := by
  have hstart := (findClosestWaypoint_firstMin position hne).lt_length
  obtain ⟨k, hk⟩ := exists_stopsAfter
    (paid (distances path position) (findClosestWaypoint path position)) (searchRadius : R)
    (path.points.length - 1)
  have hlimit := hk.le_limit
  have hloop := findNextLoop_fuel position (searchRadius : R) hstart hk path.points.length 0
    (Nat.zero_le k)
  rw [Nat.add_zero, Nat.mod_eq_of_lt hstart, paid_zero, if_pos (by omega)] at hloop
  refine ⟨k, hk, ?_⟩
  rw [findNextWaypoint, hloop]
  rfl

/-- **The search for the next waypoint.**  From the first of the closest waypoints it makes the least
number of moves after which the distances reach the radius, or goes once around. -/
theorem findNextWaypoint_moves (path : Path R) (position : Point3D R) (searchRadius : ℕ)
    (hne : path.points ≠ []) :
    ∃ closest k, FirstMin (distanceTo position) path.points closest ∧ k ≤ path.points.length - 1 ∧
      (∀ j < k, paid (distances path position) closest j < (searchRadius : R)) ∧
      (k = path.points.length - 1 ∨
        (searchRadius : R) ≤ paid (distances path position) closest k) ∧
      (∀ fuel, findNextLoop path position closest (searchRadius : R) fuel closest 0 =
        if k < fuel then .ok ((closest + k) % path.points.length) else .error .diverges) ∧
      findNextWaypoint path position searchRadius =
        .ok (closest, (closest + k) % path.points.length) := by
  have hclosest := findClosestWaypoint_firstMin position hne
  obtain ⟨k, hk, hfind⟩ := findNextWaypoint_stopsAfter position searchRadius hne
  refine ⟨findClosestWaypoint path position, k, hclosest, hk.le_limit, hk.short, hk.stop, ?_, hfind⟩
  intro fuel
  have hloop := findNextLoop_fuel position (searchRadius : R) hclosest.lt_length hk fuel 0
    (Nat.zero_le k)
  rw [Nat.add_zero, Nat.mod_eq_of_lt hclosest.lt_length, paid_zero, Nat.zero_add] at hloop
  exact hloop

end Walk

/-- Three waypoints, all of them where the vehicle stands. -/
def parkedTrack : Path ℚ where
  header := ⟨0, "map"⟩
  points := [⟨⟨0, 0, 0⟩, 10⟩, ⟨⟨0, 0, 0⟩, 10⟩, ⟨⟨0, 0, 0⟩, 10⟩]

theorem parkedTrack_moves :
    ∃ closest k, FirstMin (distanceTo (⟨0, 0, 0⟩ : Point3D ℚ)) parkedTrack.points closest ∧ k ≤ 2 ∧
      findNextWaypoint parkedTrack ⟨0, 0, 0⟩ 1 = .ok (closest, (closest + k) % 3) := by
  obtain ⟨closest, k, hfirst, hk, -, -, -, hfind⟩ :=
    findNextWaypoint_moves parkedTrack ⟨0, 0, 0⟩ 1 (List.cons_ne_nil _ _)
  exact ⟨closest, k, hfirst, hk, hfind⟩

end HitchOpen.GlobalPlanning
