import HitchOpen.GlobalPlanning.StartupOrder
import HitchOpen.GlobalPlanning.WaypointSearch

/-!
# The published local path

The search for the end of the local path walks around the closed track and may pass the last waypoint;
the copy is a range of the vector, which cannot.  As long as the walk stays short of the end of the
vector the published points are the closed run from the closest waypoint to the end of the walk.  Once
it has passed the end, its index lies before the closest one, and the range is invalid, or empty when
the walk has gone all the way round (`localPathPoints_nil_iff`).
-/

namespace HitchOpen.GlobalPlanning

open HitchOpen.ClosedTrack HitchOpen.EventMachine HitchOpen.FirstMinimum HitchOpen.Messages
open HitchOpen.Runtime

/-- A walk that stays short of the end of the vector ends in a range, which is the closed run. -/
theorem iteratorRange_short {α : Type*} {xs : List α} {start k : ℕ} (h : start + k < xs.length) :
    iteratorRange xs start ((start + k) % xs.length + 1) =
      .ok (closedRun xs start ((start + k) % xs.length)) := by
  rw [Nat.mod_eq_of_lt h, iteratorRange_ok (by omega) (by omega),
    closedRun_of_le (Nat.le_add_right start k) h]

/-- A walk that has passed the end leaves no waypoint to copy.  The range is valid only if the walk has
gone all the way round. -/
theorem iteratorRange_wrapped {α : Type*} {xs : List α} {start k : ℕ} (hstart : start < xs.length)
    (hk : k < xs.length) (hwrap : xs.length ≤ start + k) :
    iteratorRange xs start ((start + k) % xs.length + 1) =
      if k + 1 = xs.length then .ok [] else .error .invalidRange := by
  rw [Nat.mod_eq_sub_mod hwrap, Nat.mod_eq_of_lt (by omega)]
  by_cases hround : k + 1 = xs.length
  · rw [if_pos hround, iteratorRange_ok (by omega) (by omega),
      List.drop_eq_nil_of_le (by rw [List.length_take]; omega)]
  · rw [if_neg hround, iteratorRange, if_neg (by omega)]

section Published

variable {R : Type} [Field R] [LinearOrder R] [FloorSemiring R] [Sqrt R]

/-- `publishLocalPath` publishes, and does not fail to copy, the closed run from the first of the
closest waypoints to the index that the search returns. -/
def PublishesRun (c : Config R) (s : State R) (path : Path R) (position : Point3D R) (now : R) :
    Prop :=
  ∃ searchRadius nextIndex s' message vis,
    sizeTOfDouble c.localPathLengthM = .ok searchRadius ∧
    findNextWaypoint path position searchRadius = .ok (s'.currentWaypointIndex, nextIndex) ∧
    FirstMin (distanceTo position) path.points s'.currentWaypointIndex ∧
    publishLocalPath c s now = .done s' (.localPath message :: vis) ∧
    s'.currentWaypointIndex < nextIndex + 1 ∧ nextIndex + 1 ≤ path.points.length ∧
    message.points ≠ [] ∧ message.points = closedRun path.points s'.currentWaypointIndex nextIndex

/-- Such a message goes around the track waypoint by waypoint, with indices modulo their number. -/
theorem PublishesRun.getElem? {c : Config R} {s : State R} {path : Path R} {position : Point3D R}
    {now : R} (h : PublishesRun c s path position now) :
    ∃ s' message vis nextIndex, publishLocalPath c s now = .done s' (.localPath message :: vis) ∧
      ∀ i ≤ (nextIndex + path.points.length - s'.currentWaypointIndex) % path.points.length,
        message.points[i]? =
          path.points[(s'.currentWaypointIndex + i) % path.points.length]? := by
  obtain ⟨_, nextIndex, s', message, vis, -, -, hclosest, hpublish, -, -, -, hpoints⟩ := h
  refine ⟨s', message, vis, nextIndex, hpublish, ?_⟩
  intro i hi
  rw [hpoints]
  exact closedRun_getElem? hclosest.lt_length hi

/-- The length fits into `size_t`, and going in the order of the file from the closest waypoint on, the
distances from the vehicle, added up as the search does it, reach it, unless the closest waypoint is the
first of the file. -/
def ReachesLength (c : Config R) (path : Path R) (position : Point3D R) : Prop :=
  FitsSizeT c.localPathLengthM ∧ ∃ closest, FirstMin (distanceTo position) path.points closest ∧
    (closest = 0 ∨ ∃ m, (⌊c.localPathLengthM⌋₊ : R) ≤
      total (((distances path position).drop (closest + 1)).take m))

theorem publishLocalPath_eq (c : Config R) {s : State R} {path : Path R} {position : Point3D R}
    (now : R) (hgps : s.receivedGps = true) (hposition : s.currentPosition = some position)
    (hpath : s.globalPath = some path) (hne : path.points ≠ []) :
    publishLocalPath c s now =
      match localPathPoints c path position with
      | .error u => .halt s [] u
      | .ok (currentWaypointIndex, points) =>
          .done { s with currentWaypointIndex := currentWaypointIndex }
            (.localPath ⟨⟨now, "map"⟩, points⟩ ::
              if c.visualize then [.localPathVis (convertAutowarePathToNavPath ⟨⟨now, "map"⟩, points⟩)]
              else []) := by
  rw [publishLocalPath, hgps, hposition, hpath]
  show (if path.points = [] then Reply.done s [] else _) = _
  exact if_neg hne

/-- Where nothing can be copied, nothing that is expected is published. -/
theorem not_publishesRun {c : Config R} {s : State R} {path : Path R} {position : Point3D R} {now : R}
    (hgps : s.receivedGps = true) (hposition : s.currentPosition = some position)
    (hpath : s.globalPath = some path) (hne : path.points ≠ [])
    (h : ∀ i points, localPathPoints c path position = .ok (i, points) → points = []) :
    ¬ PublishesRun c s path position now := by
  intro hrun
  obtain ⟨_, _, s', message, vis, -, -, -, hpublish, -, -, hpoints, -⟩ := hrun
  rw [publishLocalPath_eq c now hgps hposition hpath hne] at hpublish
  cases hcopy : localPathPoints c path position with
  | error u =>
      rw [hcopy] at hpublish
      exact absurd (congrArg Reply.stop hpublish) (by simp)
  | ok r =>
      rw [hcopy] at hpublish
      have houtputs := congrArg Reply.outputs hpublish
      simp only [Reply.done_outputs, List.cons.injEq, Output.localPath.injEq] at houtputs
      exact hpoints (houtputs.1 ▸ h r.1 r.2 hcopy)

theorem localPathPoints_eq {c : Config R} {path : Path R} {position : Point3D R}
    {searchRadius first next : ℕ} (hradius : sizeTOfDouble c.localPathLengthM = .ok searchRadius)
    (hfind : findNextWaypoint path position searchRadius = .ok (first, next)) :
    localPathPoints c path position =
      (iteratorRange path.points first (next + 1)).map fun points => (first, points) := by
  rw [localPathPoints, hradius]
  simp only [Except.bind, bind, hfind]
  cases iteratorRange path.points first (next + 1) <;> rfl

/-- The search stays short of the end of the vector exactly when the distances reach the length. -/
theorem reachesLength_iff_short {c : Config R} {path : Path R} {position : Point3D R} {k : ℕ}
    (hfit : FitsSizeT c.localPathLengthM) (hne : path.points ≠ [])
    (hk : StopsAfter (paid (distances path position) (findClosestWaypoint path position))
      (⌊c.localPathLengthM⌋₊ : R) (path.points.length - 1) k) :
    ReachesLength c path position ↔
      findClosestWaypoint path position + k < path.points.length := by
  have hclosest := findClosestWaypoint_firstMin position hne
  rw [← distances_length path position] at hk ⊢
  rw [stopsAfter_short_iff (by rw [distances_length]; exact hclosest.lt_length) hk]
  refine ⟨?_, ?_⟩
  · intro h
    obtain ⟨-, closest, hfirst, h⟩ := h
    rw [hclosest.unique hfirst]
    exact h
  · intro h
    exact ⟨hfit, _, hclosest, h⟩

/-- **The local path.**  With a position and a track that is not empty, the closed run from the closest
waypoint is published exactly when the distances after the closest waypoint reach the length before
the end of the file. -/
theorem publishLocalPath_closedRun_iff (c : Config R) (s : State R) (path : Path R)
    (position : Point3D R) (now : R) (hgps : s.receivedGps = true)
    (hposition : s.currentPosition = some position) (hpath : s.globalPath = some path)
    (hne : path.points ≠ []) :
    PublishesRun c s path position now ↔ ReachesLength c path position := by
  by_cases hfit : FitsSizeT c.localPathLengthM
  · have hradius := sizeTOfDouble_ok hfit
    obtain ⟨k, hk, hfind⟩ := findNextWaypoint_stopsAfter position ⌊c.localPathLengthM⌋₊ hne
    have hclosest := findClosestWaypoint_firstMin position hne
    have hcopy := localPathPoints_eq hradius hfind
    rw [reachesLength_iff_short hfit hne hk]
    by_cases hshort : findClosestWaypoint path position + k < path.points.length
    · refine iff_of_true ?_ hshort
      rw [iteratorRange_short hshort] at hcopy
      have hpublish := publishLocalPath_eq c now hgps hposition hpath hne
      rw [hcopy] at hpublish
      have hmod := Nat.mod_eq_of_lt hshort
      refine ⟨_, _, _, _, _, hradius, hfind, hclosest, hpublish, ?_, ?_,
        closedRun_ne_nil hne _ _, rfl⟩
      · show findClosestWaypoint path position < _
        omega
      · omega
    · refine iff_of_false (not_publishesRun hgps hposition hpath hne ?_) hshort
      intro i points hok
      have hlt : k < path.points.length := by
        have hlimit := hk.le_limit
        have hpos := hclosest.lt_length
        omega
      rw [hcopy, iteratorRange_wrapped hclosest.lt_length hlt (not_lt.mp hshort)] at hok
      split at hok
      · cases hok
        rfl
      · cases hok
  · refine iff_of_false (not_publishesRun hgps hposition hpath hne ?_) (fun h => hfit h.1)
    intro i points hok
    rw [localPathPoints, sizeTOfDouble_error hfit] at hok
    cases hok

/-! ### The message without waypoints -/

/-- A walk from a later waypoint than the first is short of the length all the way round. -/
def WalksAround (c : Config R) (path : Path R) (position : Point3D R) : Prop :=
  findClosestWaypoint path position ≠ 0 ∧ ∀ j < path.points.length - 1,
    paid (distances path position) (findClosestWaypoint path position) j < (⌊c.localPathLengthM⌋₊ : R)

instance (c : Config R) (path : Path R) (position : Point3D R) : Decidable (WalksAround c path position) :=
  inferInstanceAs (Decidable (_ ∧ _))

/-- There is no waypoint to copy exactly when the walk ends just before its start. -/
theorem localPathPoints_nil_iff (c : Config R) {path : Path R} (position : Point3D R)
    (hne : path.points ≠ []) :
    (∃ i, localPathPoints c path position = .ok (i, [])) ↔
      FitsSizeT c.localPathLengthM ∧ WalksAround c path position := by
  have hclosest := findClosestWaypoint_firstMin position hne
  have hstart := hclosest.lt_length
  by_cases hfit : FitsSizeT c.localPathLengthM
  · obtain ⟨k, hk, hfind⟩ := findNextWaypoint_stopsAfter position ⌊c.localPathLengthM⌋₊ hne
    have hlimit := hk.le_limit
    rw [localPathPoints_eq (sizeTOfDouble_ok hfit) hfind]
    refine ⟨?_, ?_⟩
    · rintro ⟨i, hcopy⟩
      by_cases hshort : findClosestWaypoint path position + k < path.points.length
      · rw [iteratorRange_short hshort] at hcopy
        exact absurd (Prod.mk.inj (Except.ok.inj hcopy)).2 (closedRun_ne_nil hne _ _)
      · rw [iteratorRange_wrapped hstart (by omega) (not_lt.mp hshort)] at hcopy
        by_cases hround : k + 1 = path.points.length
        · refine ⟨hfit, by omega, fun j hj => hk.short j (by omega)⟩
        · rw [if_neg hround] at hcopy
          cases hcopy
    · rintro ⟨-, hlater, hshort⟩
      have hround : k + 1 = path.points.length := by
        rcases hk.stop with hend | hreach
        · omega
        · by_contra hless
          exact absurd (hshort k (by omega)) (not_lt.mpr hreach)
      refine ⟨findClosestWaypoint path position, ?_⟩
      rw [iteratorRange_wrapped hstart (by omega) (by omega), if_pos hround]
      rfl
  · refine iff_of_false ?_ fun h => hfit h.1
    rintro ⟨i, hcopy⟩
    rw [localPathPoints, sizeTOfDouble_error hfit] at hcopy
    cases hcopy

/-- The node has what it needs for a local path, and the walk goes around. -/
def GoesAround (c : Config R) (s : State R) : Prop :=
  s.receivedGps = true ∧ FitsSizeT c.localPathLengthM ∧ ∃ path position, s.globalPath = some path ∧
    s.currentPosition = some position ∧ path.points ≠ [] ∧ WalksAround c path position

/-- A local path comes from a tick of its timer. -/
theorem localPath_of_step {c : Config R} {s : State R} {e : Event R} {msg : Path R}
    (h : .localPath msg ∈ (step c s e).outputs) :
    ∃ now, e = .localPathTimer now ∧ s.receivedGps = true ∧ ∃ path position i,
      s.globalPath = some path ∧ s.currentPosition = some position ∧ path.points ≠ [] ∧
        localPathPoints c path position = .ok (i, msg.points) := by
  cases e with
  | gps msg => exact absurd h List.not_mem_nil
  | lgsvlOdom msg => exact absurd h List.not_mem_nil
  | odom msg => exact absurd h List.not_mem_nil
  | planningOdomTimer =>
      have h : Output.localPath msg ∈ (publishPlanningOdom s).outputs := h
      rw [publishPlanningOdom] at h
      repeat' split at h
      all_goals simp at h
  | globalPathTimer now =>
      have h : Output.localPath msg ∈ (publishGlobalPath c s now).outputs := h
      rw [publishGlobalPath] at h
      repeat' split at h
      all_goals simp at h
  | localPathTimer now =>
      have h : Output.localPath msg ∈ (publishLocalPath c s now).outputs := h
      refine ⟨now, rfl, ?_⟩
      by_cases hwait : s.receivedGps = true ∧ s.currentPosition ≠ none
      · obtain ⟨position, hposition⟩ := Option.ne_none_iff_exists'.mp hwait.2
        cases hpath : s.globalPath with
        | none =>
            rw [publishLocalPath_unset c now hwait.1 hwait.2 hpath] at h
            exact absurd h List.not_mem_nil
        | some path =>
            by_cases hne : path.points = []
            · rw [(publishLocalPath_set c now hpath).2 hne] at h
              exact absurd h List.not_mem_nil
            · rw [publishLocalPath_eq c now hwait.1 hposition hpath hne] at h
              refine ⟨hwait.1, path, position, ?_⟩
              cases hcopy : localPathPoints c path position with
              | error u =>
                  rw [hcopy] at h
                  exact absurd h List.not_mem_nil
              | ok r =>
                  rw [hcopy] at h
                  rcases List.mem_cons.mp h with heq | hvis
                  · obtain rfl := Output.localPath.inj heq
                    exact ⟨r.1, rfl, hposition, hne, rfl⟩
                  · split at hvis <;> simp at hvis
      · rw [publishLocalPath_waiting c now hwait] at h
        exact absurd h List.not_mem_nil

end Published

/-- A node that looks `length` metres ahead. -/
def lookahead (length : ℚ) : Config ℚ where
  localPathLengthM := length
  visualize := false
  stod := fun _ => none
  forward := fun _ x y z => ⟨x, y, z⟩

/-- A track whose last waypoint is the origin, after the waypoints at `others`. -/
def endsAtOrigin (others : List (Point3D ℚ)) : Path ℚ where
  header := ⟨0, "map"⟩
  points := others.map (⟨·, 10⟩) ++ [⟨⟨0, 0, 0⟩, 10⟩]

/-- The vehicle is at the origin. -/
def atOrigin (path : Path ℚ) : State ℚ :=
  { (initial : State ℚ) with
    globalPath := some path, receivedGps := true, currentPosition := some ⟨0, 0, 0⟩ }

/-- Looking one metre ahead from the front of a track. -/
theorem lapStart_publishesRun :
    (atOrigin (endsAtOrigin [⟨0, 0, 0⟩, ⟨1, 0, 0⟩])).receivedGps = true ∧
      PublishesRun (lookahead 1) (atOrigin (endsAtOrigin [⟨0, 0, 0⟩, ⟨1, 0, 0⟩]))
        (endsAtOrigin [⟨0, 0, 0⟩, ⟨1, 0, 0⟩]) ⟨0, 0, 0⟩ 5 := by
  have hfit : FitsSizeT (lookahead 1).localPathLengthM := by norm_num [FitsSizeT, lookahead]
  have hfirst : FirstMin (distanceTo (⟨0, 0, 0⟩ : Point3D ℚ))
      (endsAtOrigin [⟨0, 0, 0⟩, ⟨1, 0, 0⟩]).points 0 := by
    have hindex : minElement (distanceTo (⟨0, 0, 0⟩ : Point3D ℚ))
        (endsAtOrigin [⟨0, 0, 0⟩, ⟨1, 0, 0⟩]).points = 0 := by decide +kernel
    rw [← hindex]
    exact minElement_firstMin _ (List.cons_ne_nil _ _)
  exact ⟨rfl, (publishLocalPath_closedRun_iff (lookahead 1) _ _ _ 5 rfl rfl rfl
    (List.cons_ne_nil _ _)).mpr ⟨hfit, 0, hfirst, .inl rfl⟩⟩

/-- At the last of three waypoints, looking one metre ahead: the walk ends at the front of the track,
and the range to copy is invalid.  At the last of two, looking two metres ahead: the walk goes all the
way round, and the message is empty. -/
theorem lapEnd_not_publishesRun :
    (publishLocalPath (lookahead 1) (atOrigin (endsAtOrigin [⟨1, 0, 0⟩, ⟨0, 1, 0⟩])) 5 =
        .halt (atOrigin (endsAtOrigin [⟨1, 0, 0⟩, ⟨0, 1, 0⟩])) [] .invalidRange ∧
      ¬ PublishesRun (lookahead 1) (atOrigin (endsAtOrigin [⟨1, 0, 0⟩, ⟨0, 1, 0⟩]))
        (endsAtOrigin [⟨1, 0, 0⟩, ⟨0, 1, 0⟩]) ⟨0, 0, 0⟩ 5) ∧
    (publishLocalPath (lookahead 2) (atOrigin (endsAtOrigin [⟨1, 0, 0⟩])) 5 =
        .done { atOrigin (endsAtOrigin [⟨1, 0, 0⟩]) with currentWaypointIndex := 1 }
          [.localPath ⟨⟨5, "map"⟩, []⟩] ∧
      ¬ PublishesRun (lookahead 2) (atOrigin (endsAtOrigin [⟨1, 0, 0⟩]))
        (endsAtOrigin [⟨1, 0, 0⟩]) ⟨0, 0, 0⟩ 5) := by
  refine ⟨⟨by decide +kernel, ?_⟩, by decide +kernel, ?_⟩
  · refine not_publishesRun rfl rfl rfl (List.cons_ne_nil _ _) fun i points hok => ?_
    have hcopy : localPathPoints (lookahead 1) (endsAtOrigin [⟨1, 0, 0⟩, ⟨0, 1, 0⟩]) ⟨0, 0, 0⟩ =
        .error .invalidRange := by decide +kernel
    rw [hcopy] at hok
    cases hok
  · refine not_publishesRun rfl rfl rfl (List.cons_ne_nil _ _) fun i points hok => ?_
    have hcopy : localPathPoints (lookahead 2) (endsAtOrigin [⟨1, 0, 0⟩]) ⟨0, 0, 0⟩ =
        .ok (1, []) := by decide +kernel
    rw [hcopy] at hok
    cases hok
    rfl

end HitchOpen.GlobalPlanning
