import HitchOpen.GlobalPlanning.TrackFile

/-!
# The pointers behind the three timers

The planner starts its timers whatever the file was like, and serves them whatever messages have
arrived.  Each timer callback guards the pointers it uses by hand: `publishPlanningOdom` tests `odom_`
but not `lgsvl_odom_`, and nobody tests `global_path_`, which an unreadable file leaves unset.

`Received` says which members are set after which messages, and `step_globalPath` that no callback
touches the path.  The rest is a step lemma for each of the two gaps.
-/

namespace HitchOpen.GlobalPlanning

open HitchOpen.DelimitedText HitchOpen.EventMachine HitchOpen.Messages HitchOpen.Runtime

section Loading

variable {R : Type} [Field R]

/-! ### What loading leaves behind -/

/-- The file can be opened and its first line, if it has one, is not rejected. -/
def TrackAccepted (file : Option (List Char)) : Prop :=
  ∃ text, file = some text ∧ ∀ line lines,
    getlines '\n' text = line :: lines → 5 ≤ headerFields line

theorem loadOrigin_some {c : Config R} {s s' : State R} {line : List Char}
    (h : loadOrigin c s line = .ok (some s')) :
    ∃ x y z, s' = { s with originX := x, originY := y, originZ := z } := by
  unfold loadOrigin at h
  dsimp only at h
  split at h
  · obtain ⟨x, -, h⟩ := bind_ok_iff.mp h
    obtain ⟨y, -, h⟩ := bind_ok_iff.mp h
    obtain ⟨z, -, h⟩ := bind_ok_iff.mp h
    exact ⟨x, y, z, (Option.some.inj (Except.ok.inj h)).symm⟩
  · cases h

theorem loadTrack_some {c : Config R} {s s' : State R} {lines : List (List Char)}
    (h : loadTrack c s lines = .ok s') :
    ∃ path, s' = { s with proj := (s.originX, s.originY, s.originZ), globalPath := some path } := by
  obtain ⟨points, -, hs⟩ := bind_ok_iff.mp h
  exact ⟨⟨⟨0, "map"⟩, points⟩, (Except.ok.inj hs).symm⟩

/-- The members that only messages set. -/
structure NothingReceived (s : State R) : Prop where
  receivedGps : s.receivedGps = false
  currentPosition : s.currentPosition = none
  lgsvlOdom : s.lgsvlOdom = none
  odom : s.odom = none

theorem loadWaypointsFromCSV_empty (c : Config R) (s : State R) {text : List Char}
    (h : getlines '\n' text = []) :
    loadWaypointsFromCSV c s (some text) = loadTrack c s [] := by
  simp only [loadWaypointsFromCSV, h]

theorem trackAccepted_lines {text line : List Char} {lines : List (List Char)}
    (h : getlines '\n' text = line :: lines) :
    TrackAccepted (some text) ↔ 5 ≤ headerFields line := by
  refine ⟨?_, ?_⟩
  · intro ha
    obtain ⟨_, htext, ha⟩ := ha
    cases htext
    exact ha line lines h
  · intro h5
    refine ⟨text, rfl, fun line' lines' h' => ?_⟩
    rw [h] at h'
    cases h'
    exact h5

/-- The path exists after loading exactly when the file was accepted. -/
theorem loadWaypointsFromCSV_initial {c : Config R} {file : Option (List Char)} {s₀ : State R}
    (h : loadWaypointsFromCSV c initial file = .ok s₀) :
    NothingReceived s₀ ∧ (s₀.globalPath ≠ none ↔ TrackAccepted file) := by
  cases file with
  | none =>
      obtain rfl : initial = s₀ := Except.ok.inj h
      refine ⟨⟨rfl, rfl, rfl, rfl⟩, iff_of_false (by simp [initial]) ?_⟩
      intro ha
      obtain ⟨text, htext, -⟩ := ha
      cases htext
  | some text =>
      cases hlines : getlines '\n' text with
      | nil =>
          rw [loadWaypointsFromCSV_empty c initial hlines] at h
          obtain ⟨path, rfl⟩ := loadTrack_some h
          refine ⟨⟨rfl, rfl, rfl, rfl⟩, iff_of_true (by simp) ⟨text, rfl, ?_⟩⟩
          intro line lines hl
          rw [hlines] at hl
          cases hl
      | cons line lines =>
          rw [trackAccepted_lines hlines]
          rw [loadWaypointsFromCSV_lines c initial hlines] at h
          rcases Nat.lt_trichotomy (headerFields line) 5 with hless | hfive | hmore
          · rw [loadOrigin_rejected c initial hless] at h
            obtain rfl : initial = s₀ := Except.ok.inj h
            exact ⟨⟨rfl, rfl, rfl, rfl⟩, iff_of_false (by simp [initial]) (by omega)⟩
          · rw [loadOrigin_five c initial hfive] at h
            cases h
          · obtain ⟨s₁, hs₁⟩ := loadOrigin_accepted c initial hmore
            obtain ⟨x, y, z, rfl⟩ := loadOrigin_some hs₁
            rw [hs₁] at h
            obtain ⟨path, rfl⟩ := loadTrack_some h
            exact ⟨⟨rfl, rfl, rfl, rfl⟩, iff_of_true (by simp) (by omega)⟩

end Loading

section Callbacks

variable {R : Type}

/-! ### What each callback can do -/

theorem publishGlobalPath_state (c : Config R) (s : State R) (now : R) :
    (publishGlobalPath c s now).state = s := by
  rw [publishGlobalPath]
  split
  · rfl
  · split
    · rfl
    · split <;> rfl

theorem publishPlanningOdom_state (s : State R) : (publishPlanningOdom s).state = s := by
  rw [publishPlanningOdom]
  split
  · rfl
  · split
    · rfl
    · split
      · rfl
      · split <;> rfl

theorem publishGlobalPath_waiting (c : Config R) {s : State R} (now : R)
    (h : s.receivedGps = false) : publishGlobalPath c s now = .done s [] := by
  simp only [publishGlobalPath, h, Bool.not_false, if_true]

theorem publishGlobalPath_unset (c : Config R) {s : State R} (now : R)
    (h : s.receivedGps = true) (hp : s.globalPath = none) :
    publishGlobalPath c s now = .halt s [] .nullDereference := by
  simp only [publishGlobalPath, h, hp, Bool.not_true, Bool.false_eq_true, if_false]

/-- With a path, an empty one included, the callback returns. -/
theorem publishGlobalPath_set (c : Config R) {s : State R} {path : Path R} (now : R)
    (hp : s.globalPath = some path) :
    (publishGlobalPath c s now).stop = none ∧
      (path.points = [] → publishGlobalPath c s now = .done s []) := by
  cases h : s.receivedGps with
  | false =>
      rw [publishGlobalPath_waiting c now h]
      exact ⟨rfl, fun _ => rfl⟩
  | true =>
      by_cases hne : path.points = []
      · simp only [publishGlobalPath, h, hp, hne, Bool.not_true, Bool.false_eq_true, if_false, if_true]
        exact ⟨rfl, fun _ => trivial⟩
      · simp only [publishGlobalPath, h, hp, hne, Bool.not_true, Bool.false_eq_true, if_false]
        exact ⟨rfl, fun hc => hc.elim⟩

theorem publishPlanningOdom_waiting {s : State R}
    (h : ¬ (s.receivedGps = true ∧ s.currentPosition ≠ none ∧ s.odom ≠ none)) :
    publishPlanningOdom s = .done s [] := by
  rw [publishPlanningOdom]
  cases hg : s.receivedGps with
  | false => rfl
  | true =>
      cases hp : s.currentPosition with
      | none => rfl
      | some position =>
          cases ho : s.odom with
          | none => rfl
          | some odom => exact absurd ⟨hg, by simp [hp], by simp [ho]⟩ h

/-- The guards have passed, so that only the unguarded pointer is left. -/
theorem publishPlanningOdom_stop {s : State R} (hg : s.receivedGps = true)
    (hp : s.currentPosition ≠ none) (ho : s.odom ≠ none) :
    (publishPlanningOdom s).stop = if s.lgsvlOdom = none then some .nullDereference else none := by
  obtain ⟨position, hp⟩ := Option.ne_none_iff_exists'.mp hp
  obtain ⟨odom, ho⟩ := Option.ne_none_iff_exists'.mp ho
  simp only [publishPlanningOdom, hg, hp, ho, Bool.not_true, Bool.false_eq_true, if_false]
  cases s.lgsvlOdom <;> rfl

variable [Field R] [Sqrt R] [LinearOrder R]

theorem findNextLoop_error {path : Path R} {position : Point3D R} {start : ℕ} {radius : R}
    {fuel : ℕ} {u : Undefined} : ∀ {next : ℕ} {distance : R},
      findNextLoop path position start radius fuel next distance = .error u →
      u ≠ .nullDereference := by
  induction fuel with
  | zero =>
      intro next distance h
      cases h
      decide
  | succ fuel ih =>
      intro next distance h
      rw [findNextLoop] at h
      dsimp only at h
      split at h
      · split at h
        · cases h
        · rcases bind_error_iff.mp h with hv | ⟨point, -, hrest⟩
          · rw [vectorAt_error hv]
            decide
          · exact ih hrest
      · cases h

variable [FloorSemiring R]

/-- Whatever goes wrong with the local path, it is not a null pointer. -/
theorem localPathPoints_error {c : Config R} {path : Path R} {position : Point3D R} {u : Undefined}
    (h : localPathPoints c path position = .error u) : u ≠ .nullDereference := by
  rcases bind_error_iff.mp h with hs | ⟨radius, -, h⟩
  · rw [sizeTOfDouble_error_eq hs]
    decide
  · rcases bind_error_iff.mp h with hn | ⟨next, -, h⟩
    · rcases bind_error_iff.mp hn with hl | ⟨_, -, h⟩
      · exact findNextLoop_error hl
      · cases h
    · rcases bind_error_iff.mp h with hr | ⟨_, -, h⟩
      · rw [iteratorRange_error hr]
        decide
      · cases h

theorem publishLocalPath_waiting (c : Config R) {s : State R} (now : R)
    (h : ¬ (s.receivedGps = true ∧ s.currentPosition ≠ none)) :
    publishLocalPath c s now = .done s [] := by
  rw [publishLocalPath]
  cases hg : s.receivedGps with
  | false => rfl
  | true =>
      cases hp : s.currentPosition with
      | none => rfl
      | some position => exact absurd ⟨hg, by simp [hp]⟩ h

theorem publishLocalPath_unset (c : Config R) {s : State R} (now : R) (hg : s.receivedGps = true)
    (hpos : s.currentPosition ≠ none) (hp : s.globalPath = none) :
    publishLocalPath c s now = .halt s [] .nullDereference := by
  obtain ⟨position, hpos⟩ := Option.ne_none_iff_exists'.mp hpos
  simp only [publishLocalPath, hg, hpos, hp, Bool.not_true, Bool.false_eq_true, if_false]

/-- With a path, an empty one included, no null pointer is met. -/
theorem publishLocalPath_set (c : Config R) {s : State R} {path : Path R} (now : R)
    (hp : s.globalPath = some path) :
    (publishLocalPath c s now).stop ≠ some .nullDereference ∧
      (path.points = [] → publishLocalPath c s now = .done s []) := by
  by_cases hw : s.receivedGps = true ∧ s.currentPosition ≠ none
  · obtain ⟨position, hpos⟩ := Option.ne_none_iff_exists'.mp hw.2
    simp only [publishLocalPath, hw.1, hpos, hp, Bool.not_true, Bool.false_eq_true, if_false]
    by_cases hne : path.points = []
    · rw [if_pos hne]
      exact ⟨by simp, fun _ => rfl⟩
    · rw [if_neg hne]
      refine ⟨?_, fun hc => absurd hc hne⟩
      cases hl : localPathPoints c path position with
      | error u => simpa using localPathPoints_error hl
      | ok r => simp
  · rw [publishLocalPath_waiting c now hw]
    exact ⟨by simp, fun _ => rfl⟩

theorem publishLocalPath_state (c : Config R) (s : State R) (now : R) :
    ∃ i, (publishLocalPath c s now).state = { s with currentWaypointIndex := i } := by
  rw [publishLocalPath]
  split
  · exact ⟨s.currentWaypointIndex, rfl⟩
  · split
    · exact ⟨s.currentWaypointIndex, rfl⟩
    · split
      · exact ⟨s.currentWaypointIndex, rfl⟩
      · split
        · exact ⟨s.currentWaypointIndex, rfl⟩
        · split
          · exact ⟨s.currentWaypointIndex, rfl⟩
          · exact ⟨_, rfl⟩

end Callbacks

/-! ### Which messages have set which members -/

section Runs

variable {R : Type}

/-- The members that only messages set, after the events `es`. -/
structure Received (es : List (Event R)) (s : State R) : Prop where
  receivedGps : s.receivedGps = true ↔ ∃ msg, .gps msg ∈ es
  currentPosition : s.currentPosition ≠ none ↔ ∃ msg, .gps msg ∈ es
  odom : s.odom ≠ none ↔ ∃ msg, .odom msg ∈ es
  lgsvlOdom : s.lgsvlOdom ≠ none ↔ ∃ msg, .lgsvlOdom msg ∈ es

theorem NothingReceived.received {s₀ : State R} (h : NothingReceived s₀) : Received [] s₀ where
  receivedGps := by simp [h.receivedGps]
  currentPosition := by simp [h.currentPosition]
  odom := by simp [h.odom]
  lgsvlOdom := by simp [h.lgsvlOdom]

/-- A timer tick brings no message and writes none of these members. -/
theorem Received.tick {es : List (Event R)} {s : State R} (h : Received es s) {e : Event R} (i : ℕ)
    (he : (∀ msg, e ≠ .gps msg) ∧ (∀ msg, e ≠ .odom msg) ∧ ∀ msg, e ≠ .lgsvlOdom msg) :
    Received (es ++ [e]) { s with currentWaypointIndex := i } where
  receivedGps := by simpa [fun msg => (he.1 msg).symm] using h.receivedGps
  currentPosition := by simpa [fun msg => (he.1 msg).symm] using h.currentPosition
  odom := by simpa [fun msg => (he.2.1 msg).symm] using h.odom
  lgsvlOdom := by simpa [fun msg => (he.2.2 msg).symm] using h.lgsvlOdom

variable [Field R] [Sqrt R] [LinearOrder R] [FloorSemiring R]

theorem step_received (c : Config R) {es : List (Event R)} {s : State R} (h : Received es s)
    (e : Event R) : Received (es ++ [e]) (step c s e).state := by
  cases e with
  | gps msg =>
      exact {
        receivedGps := by simp [step, gpsCallback]
        currentPosition := by simp [step, gpsCallback]
        odom := by simpa [step, gpsCallback] using h.odom
        lgsvlOdom := by simpa [step, gpsCallback] using h.lgsvlOdom }
  | lgsvlOdom msg =>
      exact {
        receivedGps := by simpa [step] using h.receivedGps
        currentPosition := by simpa [step] using h.currentPosition
        odom := by simpa [step] using h.odom
        lgsvlOdom := by simp [step] }
  | odom msg =>
      exact {
        receivedGps := by simpa [step] using h.receivedGps
        currentPosition := by simpa [step] using h.currentPosition
        odom := by simp [step]
        lgsvlOdom := by simpa [step] using h.lgsvlOdom }
  | globalPathTimer now =>
      simp only [step, publishGlobalPath_state]
      exact h.tick s.currentWaypointIndex (by simp)
  | localPathTimer now =>
      obtain ⟨i, hi⟩ := publishLocalPath_state c s now
      simp only [step, hi]
      exact h.tick i (by simp)
  | planningOdomTimer =>
      simp only [step, publishPlanningOdom_state]
      exact h.tick s.currentWaypointIndex (by simp)

theorem step_globalPath (c : Config R) (s : State R) (e : Event R) :
    (step c s e).state.globalPath = s.globalPath := by
  cases e with
  | gps msg => rfl
  | lgsvlOdom msg => rfl
  | odom msg => rfl
  | globalPathTimer now => simp only [step, publishGlobalPath_state]
  | localPathTimer now =>
      obtain ⟨i, hi⟩ := publishLocalPath_state c s now
      simp only [step, hi]
  | planningOdomTimer => simp only [step, publishPlanningOdom_state]

/-- What a run from a loaded state keeps: the path it was loaded with, and the members that its
messages have set. -/
theorem run_received {c : Config R} {s₀ s : State R} (h₀ : NothingReceived s₀)
    {es : List (Event R)} (h : (planningNode c s₀).runFrom s₀ es = some s) :
    Received es s ∧ s.globalPath = s₀.globalPath := by
  refine (planningNode c s₀).runFrom_induct_history
    (H := fun es s => Received es s ∧ s.globalPath = s₀.globalPath) ⟨h₀.received, rfl⟩ ?_ h
  intro es s e hs _
  exact ⟨step_received c hs.1 e, (step_globalPath c s e).trans hs.2⟩

/-! ### After a successful load -/

/-- The messages from which a timer callback publishes have arrived. -/
def Supplied (s : State R) : Event R → Prop
  | .globalPathTimer _ => s.receivedGps = true
  | .localPathTimer _ => s.receivedGps = true ∧ s.currentPosition ≠ none
  | .planningOdomTimer =>
      s.receivedGps = true ∧ s.currentPosition ≠ none ∧ s.odom ≠ none ∧ s.lgsvlOdom ≠ none
  | _ => True

/-- Handling `e` dereferences no null pointer, and a tick that comes too early does nothing. -/
structure GuardsPointers (c : Config R) (s : State R) (e : Event R) : Prop where
  dereferences : (step c s e).stop ≠ some .nullDereference
  waits : ¬ Supplied s e → step c s e = .done s []

/-- The messages handled so far include a fix and an odometry message, but none from the simulator. -/
def AwaitsLgsvl (es : List (Event R)) : Prop :=
  (∃ msg, .gps msg ∈ es) ∧ (∃ msg, .odom msg ∈ es) ∧ ∀ msg, .lgsvlOdom msg ∉ es

theorem guardsPointers_of_done {c : Config R} {s : State R} {e : Event R} {s' : State R}
    (h : step c s e = .done s' []) (he : Supplied s e) : GuardsPointers c s e where
  dereferences := by simp [h]
  waits hn := absurd he hn

theorem globalPathTimer_guarded (c : Config R) {s : State R} (hpath : s.globalPath ≠ none) (now : R) :
    GuardsPointers c s (.globalPathTimer now) where
  dereferences := by
    obtain ⟨path, hpath⟩ := Option.ne_none_iff_exists'.mp hpath
    simp [step, (publishGlobalPath_set c now hpath).1]
  waits hn := publishGlobalPath_waiting c now (by simpa [Supplied] using hn)

theorem localPathTimer_guarded (c : Config R) {s : State R} (hpath : s.globalPath ≠ none) (now : R) :
    GuardsPointers c s (.localPathTimer now) where
  dereferences := by
    obtain ⟨path, hpath⟩ := Option.ne_none_iff_exists'.mp hpath
    exact (publishLocalPath_set c now hpath).1
  waits hn := publishLocalPath_waiting c now hn

/-- The third timer is guarded unless all that is missing is the pointer it does not test. -/
theorem planningOdomTimer_guarded_iff (c : Config R) {s : State R} {es : List (Event R)}
    (h : Received es s) : GuardsPointers c s .planningOdomTimer ↔ ¬ AwaitsLgsvl es := by
  have hlgsvl : (∀ msg, .lgsvlOdom msg ∉ es) ↔ s.lgsvlOdom = none := by
    rw [← not_exists, ← h.lgsvlOdom, not_not]
  rw [AwaitsLgsvl, hlgsvl]
  by_cases hw : s.receivedGps = true ∧ s.currentPosition ≠ none ∧ s.odom ≠ none
  · have hstop := publishPlanningOdom_stop hw.1 hw.2.1 hw.2.2
    refine ⟨?_, ?_⟩
    · intro hg hmissing
      rw [if_pos hmissing.2.2] at hstop
      exact hg.dereferences hstop
    · intro hn
      have hset : s.lgsvlOdom ≠ none := fun hl =>
        hn ⟨h.receivedGps.mp hw.1, h.odom.mp hw.2.2, hl⟩
      rw [if_neg hset] at hstop
      exact ⟨by simp [step, hstop], fun hs => absurd ⟨hw.1, hw.2.1, hw.2.2, hset⟩ hs⟩
  · have hwait := publishPlanningOdom_waiting hw
    refine iff_of_true ⟨by simp [step, hwait], fun _ => hwait⟩ ?_
    intro hmissing
    exact hw ⟨h.receivedGps.mpr hmissing.1, h.currentPosition.mpr hmissing.1,
      h.odom.mpr hmissing.2.1⟩

/-- **Start-up order.**  After a successful load, every step of a run guards its pointers if and only
if no planning odometry tick is handled while only the simulator's odometry is missing. -/
theorem guardsPointers_iff (c : Config R) (file : Option (List Char)) (s₀ : State R)
    (hload : loadWaypointsFromCSV c initial file = .ok s₀) (hpath : s₀.globalPath ≠ none)
    (es : List (Event R)) :
    (planningNode c s₀).EachStep s₀ es (GuardsPointers c) ↔
      ∀ pre s, pre ++ [.planningOdomTimer] <+: es →
        (planningNode c s₀).runFrom s₀ pre = some s → ¬ AwaitsLgsvl pre := by
  have h₀ := (loadWaypointsFromCSV_initial hload).1
  refine ⟨?_, ?_⟩
  · intro hall pre s hpre hrun
    exact (planningOdomTimer_guarded_iff c (run_received h₀ hrun).1).mp
      (hall pre .planningOdomTimer s hpre hrun)
  · intro horder pre e s hpre hrun
    obtain ⟨hs, hp⟩ := run_received h₀ hrun
    cases e with
    | gps msg => exact guardsPointers_of_done rfl trivial
    | lgsvlOdom msg => exact guardsPointers_of_done rfl trivial
    | odom msg => exact guardsPointers_of_done rfl trivial
    | globalPathTimer now => exact globalPathTimer_guarded c (hp ▸ hpath) now
    | localPathTimer now => exact localPathTimer_guarded c (hp ▸ hpath) now
    | planningOdomTimer =>
        exact (planningOdomTimer_guarded_iff c hs).mpr (horder pre s hpre hrun)

end Runs

/-- A track of one waypoint, with its origin in the first line. -/
def oneWaypoint : List Char := "1,2,3,0,1,2\n1,2,3,0,1\n".toList

def oneWaypointLoaded : State ℚ :=
  { (initial : State ℚ) with
    originY := 1, originZ := 2, proj := (0, 1, 2),
    globalPath := some ⟨⟨0, "map"⟩, [⟨⟨1, 2, 3⟩, 1⟩]⟩ }

theorem oneWaypoint_loads :
    loadWaypointsFromCSV readsSomeNumbers initial (some oneWaypoint) = .ok oneWaypointLoaded := by
  decide +kernel

/-- A fix at the waypoint. -/
def atWaypoint : Event ℚ := .gps ⟨1, 2, 3⟩

/-- The vehicle stands still at the waypoint. -/
def standing : Event ℚ := .odom ⟨⟨0, "map"⟩, ⟨1, 2, 3⟩, ⟨0, 0, 0, 1⟩, 0⟩

theorem guardsPointers_oneWaypoint :
    (planningNode readsSomeNumbers oneWaypointLoaded).EachStep oneWaypointLoaded
      [atWaypoint, .planningOdomTimer, .localPathTimer 1] (GuardsPointers readsSomeNumbers) := by
  refine (guardsPointers_iff readsSomeNumbers (some oneWaypoint) oneWaypointLoaded oneWaypoint_loads
    (by decide) [atWaypoint, .planningOdomTimer, .localPathTimer 1]).mpr ?_
  intro pre s hpre _ hmissing
  obtain ⟨msg, hmsg⟩ := hmissing.2.1
  have hmem := hpre.subset (List.mem_append_left _ hmsg)
  simp [atWaypoint] at hmem

/-- The odometry arrives from one source and not yet from the other. -/
theorem planningOdom_dereferences_null :
    ¬ ∀ file s₀, loadWaypointsFromCSV readsSomeNumbers initial file = .ok s₀ →
      s₀.globalPath ≠ none → ∀ es,
        (planningNode readsSomeNumbers s₀).EachStep s₀ es (GuardsPointers readsSomeNumbers) := by
  intro h
  have hall := h (some oneWaypoint) oneWaypointLoaded oneWaypoint_loads (by decide)
    [atWaypoint, standing, .planningOdomTimer]
  have hlast := hall [atWaypoint, standing] .planningOdomTimer _ (List.prefix_refl _) rfl
  exact hlast.dereferences (by decide +kernel)

section AnyLoad

variable {R : Type} [Field R] [Sqrt R] [LinearOrder R] [FloorSemiring R]

/-! ### After any load -/

/-- A tick of one of the two timers that read the path. -/
def Event.isPathTimer : Event R → Bool
  | .globalPathTimer _ => true
  | .localPathTimer _ => true
  | _ => false

/-- The waypoints that loading has left; none without a path. -/
def waypoints (s : State R) : List (PathPoint R) := (s.globalPath.map (·.points)).getD []

/-- A tick that reads the path finds it set, and without waypoints it does nothing. -/
structure GuardsPath (c : Config R) (s : State R) (e : Event R) : Prop where
  dereferences : e.isPathTimer = true → (step c s e).stop ≠ some .nullDereference
  waits : e.isPathTimer = true → waypoints s = [] → step c s e = .done s []

theorem guardsPath_of_other (c : Config R) (s : State R) {e : Event R} (he : e.isPathTimer = false) :
    GuardsPath c s e where
  dereferences hp := by simp [he] at hp
  waits hp := by simp [he] at hp

theorem guardsPath_of_set (c : Config R) {s : State R} (hpath : s.globalPath ≠ none) (e : Event R) :
    GuardsPath c s e := by
  obtain ⟨path, hpath⟩ := Option.ne_none_iff_exists'.mp hpath
  have hw : waypoints s = path.points := by simp [waypoints, hpath]
  cases e with
  | globalPathTimer now =>
      obtain ⟨hstop, hempty⟩ := publishGlobalPath_set c now hpath
      exact ⟨fun _ => by simp [step, hstop], fun _ hn => hempty (hw ▸ hn)⟩
  | localPathTimer now =>
      obtain ⟨hstop, hempty⟩ := publishLocalPath_set c now hpath
      exact ⟨fun _ => hstop, fun _ hn => hempty (hw ▸ hn)⟩
  | gps msg => exact guardsPath_of_other c s rfl
  | lgsvlOdom msg => exact guardsPath_of_other c s rfl
  | odom msg => exact guardsPath_of_other c s rfl
  | planningOdomTimer => exact guardsPath_of_other c s rfl

/-- Without a path only the ticks before the first fix are harmless. -/
theorem guardsPath_of_unset (c : Config R) {s : State R} {es : List (Event R)} (h : Received es s)
    (hpath : s.globalPath = none) {e : Event R} (he : e.isPathTimer = true) :
    GuardsPath c s e ↔ ∀ msg, .gps msg ∉ es := by
  have hgps : (∀ msg, .gps msg ∉ es) ↔ s.receivedGps = false := by
    rw [← not_exists, ← h.receivedGps, Bool.not_eq_true]
  have hpos : s.receivedGps = true → s.currentPosition ≠ none := fun hg =>
    h.currentPosition.mpr (h.receivedGps.mp hg)
  rw [hgps]
  have key : step c s e = if s.receivedGps = true then .halt s [] .nullDereference else .done s [] := by
    cases e with
    | globalPathTimer now =>
        by_cases hg : s.receivedGps = true
        · rw [if_pos hg]
          exact publishGlobalPath_unset c now hg hpath
        · rw [if_neg hg]
          exact publishGlobalPath_waiting c now (by simpa using hg)
    | localPathTimer now =>
        by_cases hg : s.receivedGps = true
        · rw [if_pos hg]
          exact publishLocalPath_unset c now hg (hpos hg) hpath
        · rw [if_neg hg]
          exact publishLocalPath_waiting c now (fun hw => hg hw.1)
    | gps msg => cases he
    | lgsvlOdom msg => cases he
    | odom msg => cases he
    | planningOdomTimer => cases he
  cases hg : s.receivedGps with
  | false =>
      rw [hg] at key
      exact iff_of_true ⟨fun _ => by simp [key], fun _ _ => key⟩ rfl
  | true =>
      rw [hg] at key
      exact iff_of_false (fun hgp => hgp.dereferences he (by simp [key])) (by simp)

/-- **Any outcome of loading.**  However the constructor has left the node, every tick that reads the
path is harmless if and only if the file was accepted or no such tick follows a fix. -/
theorem guardsPath_iff (c : Config R) (file : Option (List Char)) (s₀ : State R)
    (hload : loadWaypointsFromCSV c initial file = .ok s₀) (es : List (Event R)) :
    (planningNode c s₀).EachStep s₀ es (GuardsPath c) ↔
      TrackAccepted file ∨ ∀ pre e s, pre ++ [e] <+: es →
        (planningNode c s₀).runFrom s₀ pre = some s → e.isPathTimer = true →
        ∀ msg, .gps msg ∉ pre := by
  obtain ⟨h₀, hset⟩ := loadWaypointsFromCSV_initial hload
  by_cases hfile : TrackAccepted file
  · refine iff_of_true ?_ (.inl hfile)
    intro pre e s hpre hrun
    obtain ⟨-, hp⟩ := run_received h₀ hrun
    exact guardsPath_of_set c (hp ▸ hset.mpr hfile) e
  · have hnone : s₀.globalPath = none := by
      by_contra hne
      exact hfile (hset.mp hne)
    refine ⟨?_, ?_⟩
    · intro hall
      refine .inr fun pre e s hpre hrun he => ?_
      obtain ⟨hs, hp⟩ := run_received h₀ hrun
      exact (guardsPath_of_unset c hs (hp.trans hnone) he).mp (hall pre e s hpre hrun)
    · intro horder pre e s hpre hrun
      obtain ⟨hs, hp⟩ := run_received h₀ hrun
      cases he : e.isPathTimer with
      | false => exact guardsPath_of_other c s he
      | true =>
          exact (guardsPath_of_unset c hs (hp.trans hnone) he).mpr
            (horder.resolve_left hfile pre e s hpre hrun he)

end AnyLoad

/-- A first line of three fields is rejected. -/
theorem shortHeader_loads :
    loadWaypointsFromCSV readsSomeNumbers initial (some "1,2,3\n1,2,3,0,1\n".toList) =
      .ok initial := by
  decide +kernel

theorem guardsPath_shortHeader :
    (planningNode readsSomeNumbers initial).EachStep initial [.globalPathTimer 0, .localPathTimer 0]
      (GuardsPath readsSomeNumbers) := by
  refine (guardsPath_iff readsSomeNumbers (some "1,2,3\n1,2,3,0,1\n".toList) initial
    shortHeader_loads [.globalPathTimer 0, .localPathTimer 0]).mpr (.inr ?_)
  intro pre e s hpre _ _ msg hmsg
  have hmem := hpre.subset (List.mem_append_left _ hmsg)
  simp at hmem

/-- After a file that cannot be opened, the first fix makes both timers fatal. -/
theorem pathTimers_dereference_null :
    ¬ ∀ file s₀, loadWaypointsFromCSV readsSomeNumbers initial file = .ok s₀ → ∀ es,
      (planningNode readsSomeNumbers s₀).EachStep s₀ es (GuardsPath readsSomeNumbers) := by
  intro h
  have hall := h none initial rfl [atWaypoint, .globalPathTimer 1]
  have hlast := hall [atWaypoint] (.globalPathTimer 1) _ (List.prefix_refl _) rfl
  exact hlast.dereferences rfl (by decide +kernel)

end HitchOpen.GlobalPlanning
