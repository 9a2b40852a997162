import HitchOpen.GpsToEnu.RecordedTable
import HitchOpen.GpsToEnu.TrackRoundTrip
import HitchOpen.Library.History

/-!
# From the recorded drive to the track

A route goes through three programs: the keyboard node records fixes and saves them, the converter turns
the table into a track file, and the planner loads it.  Each of the two files lacks the first line that its
reader expects.  With a line of column names in front of the table, and an accepted first line in the place
of the one that the converter writes, the waypoints of the track are the recorded fixes, one for one and
in order: `recordedRoute_loads`.
-/

namespace HitchOpen.GpsToEnu

open HitchOpen.CsvReader HitchOpen.EventMachine HitchOpen.History HitchOpen.KeyboardController
open HitchOpen.Messages HitchOpen.Runtime

/-! ### What has been recorded -/

def fix? : Event → Option (NavSatFix ℚ)
  | .gps msg => some msg
  | _ => none

/-- The fix that an event records: `ctrl_r` takes the last one. -/
def marked (c : Config) (past : List Event) : Event → List (NavSatFix ℚ)
  | .press .ctrlR => if c.saveWaypointsEnabled then (last fix? past).toList else []
  | _ => []

/-- The fixes recorded in a run. -/
def route (c : Config) (es : List Event) : List (NavSatFix ℚ) := answers (marked c) [] es

/-- A fix as it is recorded. -/
def waypoint (fix : NavSatFix ℚ) : Waypoint := (fix.latitude, fix.longitude, fix.altitude, 0, 0)

/-- The members about recording after the events `past`.  No message sets `latest_odom`, so that nothing is
recorded but by the key. -/
structure Recorded (c : Config) (past : List Event) (s : State) : Prop where
  latestGps : s.latestGps = last fix? past
  receivedOdom : s.receivedOdom = false
  waypoints : s.waypoints = (route c past).map waypoint

theorem recorded_init (c : Config) : Recorded c [] (init c) := ⟨rfl, rfl, rfl⟩

/-- The three members are those of `s`. -/
structure SameRecord (s s' : State) : Prop where
  latestGps : s'.latestGps = s.latestGps
  receivedOdom : s'.receivedOdom = s.receivedOdom
  waypoints : s'.waypoints = s.waypoints

theorem SameRecord.refl (s : State) : SameRecord s s := ⟨rfl, rfl, rfl⟩

variable {c : Config} {past : List Event} {s : State}

/-- An event that neither brings a fix nor records one only lengthens the history. -/
theorem Recorded.concat (h : Recorded c past s) {e : Event} {s' : State} (hfix : fix? e = none)
    (hmarked : marked c past e = []) (hsame : SameRecord s s') : Recorded c (past ++ [e]) s' := by
  refine ⟨?_, hsame.receivedOdom.trans h.receivedOdom, ?_⟩
  · rw [last_concat, hfix, Option.none_or, hsame.latestGps, h.latestGps]
  · rw [route, answers_concat, List.nil_append, hmarked, List.append_nil, hsame.waypoints, h.waypoints]
    rfl

theorem whenGreen_sameRecord (s : State) {act : State → State} (hact : ∀ s, SameRecord s (act s)) :
    SameRecord s (whenGreen s act).state := by
  obtain ⟨-, h⟩ | ⟨h, -⟩ := whenGreen_cases s act
  · rw [h]
    exact hact s
  · rw [h]
    exact .refl s

/-- A key other than `ctrl_r` records nothing. -/
theorem onPress_sameRecord (c : Config) (s : State) {key : Key} (hkey : key ≠ .ctrlR) :
    SameRecord s (onPress c s key).state := by
  unfold onPress
  split
  · exact whenGreen_sameRecord s fun s => ⟨rfl, rfl, rfl⟩
  · exact ⟨rfl, rfl, rfl⟩
  · exact ⟨rfl, rfl, rfl⟩
  · exact ⟨rfl, rfl, rfl⟩
  · exact .refl s
  · exact .refl s
  · exact .refl s
  · refine whenGreen_sameRecord s fun s => ?_
    rw [shiftUp]
    split <;> exact ⟨rfl, rfl, rfl⟩
  · refine whenGreen_sameRecord s fun s => ?_
    rw [shiftDown]
    split <;> exact ⟨rfl, rfl, rfl⟩
  · exact absurd rfl hkey
  · exact .refl s

/-- `ctrl_r` records the last fix, if there is one. -/
theorem Recorded.press_ctrlR (h : Recorded c past s) :
    Recorded c (past ++ [.press .ctrlR]) (if c.saveWaypointsEnabled then recordWaypoint s else s) := by
  have hlast : last fix? (past ++ [.press .ctrlR]) = last fix? past := last_concat _ _ _
  have hroute : route c (past ++ [.press .ctrlR]) =
      route c past ++ if c.saveWaypointsEnabled then (last fix? past).toList else [] :=
    answers_concat _ _ _ _
  cases hsave : c.saveWaypointsEnabled with
  | false =>
      rw [hsave] at hroute
      refine ⟨h.latestGps.trans hlast.symm, h.receivedOdom, ?_⟩
      exact h.waypoints.trans (congrArg (List.map waypoint) (hroute.trans (List.append_nil _)).symm)
  | true =>
      rw [hsave, if_pos rfl] at hroute
      rw [if_pos rfl, recordWaypoint]
      cases hfix : s.latestGps with
      | none =>
          have hnone : last fix? past = none := h.latestGps.symm.trans hfix
          rw [hnone] at hroute
          refine ⟨hfix.trans (hlast.trans hnone).symm, h.receivedOdom, ?_⟩
          exact h.waypoints.trans (congrArg (List.map waypoint) (hroute.trans (List.append_nil _)).symm)
      | some fix =>
          have hsome : last fix? past = some fix := h.latestGps.symm.trans hfix
          rw [hsome] at hroute
          refine ⟨(hlast.trans hsome).symm, h.receivedOdom, ?_⟩
          show s.waypoints ++ [waypoint fix] = _
          rw [hroute, h.waypoints, List.map_append]
          rfl

theorem Recorded.step (h : Recorded c past s) (e : Event) :
    Recorded c (past ++ [e]) (KeyboardController.step c s e).state := by
  cases e with
  | press key =>
      by_cases hkey : key = .ctrlR
      · subst hkey
        exact h.press_ctrlR
      · refine h.concat rfl ?_ (onPress_sameRecord c s hkey)
        rw [marked]
        exact fun he => hkey (Event.press.inj he)
  | release key =>
      refine h.concat rfl rfl ?_
      show SameRecord s (onRelease s key).state
      unfold onRelease
      split <;> exact ⟨rfl, rfl, rfl⟩
  | vehicleFlag flag now =>
      refine h.concat rfl rfl ?_
      show SameRecord s (vehicleFlagCallback s flag now).state
      rw [vehicleFlagCallback_state]
      exact ⟨rfl, rfl, rfl⟩
  | flagCheck now =>
      refine h.concat rfl rfl ?_
      show SameRecord s (checkFlagTimeout c s now).state
      rw [checkFlagTimeout]
      split <;> exact ⟨rfl, rfl, rfl⟩
  | controlTick now => exact h.concat rfl rfl (.refl s)
  | gps msg =>
      have hstate : (gpsCallback s msg).state = { s with latestGps := some msg } := by
        rw [gpsCallback]
        simp only [h.receivedOdom, Bool.and_false]
        rfl
      show Recorded c _ (gpsCallback s msg).state
      rw [hstate]
      refine ⟨?_, h.receivedOdom, ?_⟩
      · rw [last_concat]
        rfl
      · rw [route, answers_concat]
        exact h.waypoints.trans (congrArg (List.map waypoint) (List.append_nil _).symm)

theorem recorded_of_run {es : List Event} {s : State}
    (h : (keyboardNode c).runFrom (init c) es = some s) : Recorded c es s :=
  (keyboardNode c).runFrom_induct_history (recorded_init c) (fun _ _ e hs _ => hs.step e) h

/-- A saved table holds what has been recorded. -/
theorem rows_of_step {e : Event} {rows : List Waypoint}
    (h : .waypointFile rows ∈ (KeyboardController.step c s e).outputs) : rows = s.waypoints := by
  cases e with
  | press key =>
      have h : Output.waypointFile rows ∈ (onPress c s key).outputs := h
      unfold onPress at h
      split at h
      all_goals first
        | (rw [whenGreen_outputs] at h
           exact absurd h List.not_mem_nil)
        | exact absurd h List.not_mem_nil
        | skip
      rw [Reply.done_outputs, saveWaypoints] at h
      split_ifs at h
      · cases h
      · exact Output.waypointFile.inj (List.mem_singleton.mp h)
      · cases h
  | release key =>
      rw [show (KeyboardController.step c s (.release key)).outputs = _ from onRelease_outputs s key] at h
      cases h
  | vehicleFlag flag now =>
      rw [show (KeyboardController.step c s (.vehicleFlag flag now)).outputs = _ from
        vehicleFlagCallback_outputs s flag now] at h
      cases h
  | gps msg =>
      rw [show (KeyboardController.step c s (.gps msg)).outputs = _ from gpsCallback_outputs s msg] at h
      cases h
  | flagCheck now =>
      rw [show (KeyboardController.step c s (.flagCheck now)).outputs = _ from
        checkFlagTimeout_outputs c s now] at h
      cases h
  | controlTick now => cases List.mem_singleton.mp h

/-! ### The three programs together -/

section Route

variable {R : Type} [Field R] [LinearOrder R] [FloorSemiring R] [Trig R] [Sqrt R]

/-- **From the drive to the track.**  Let a run of the keyboard node end with a saved table.  It holds the
recorded fixes.  Behind a line of column names the converter takes all of it, and behind any line with six
fields the planner loads what the converter has written: a waypoint for each recorded fix, in order. -/
theorem recordedRoute_loads {es : List Event} {e : Event} {rows : List Waypoint}
    (hrun : (keyboardNode c).runFrom (init c) es = some s)
    (hfile : .waypointFile rows ∈ (KeyboardController.step c s e).outputs)
    {float : List Char → Option R} {repr : ℚ → FloatText}
    (hreads : ∀ w ∈ rows, ReadsPosition float repr w) (p : GlobalPlanning.Config R)
    (q : GlobalPlanning.State R) {line : List Char} (hline : '\n' ∉ line)
    (hsix : 6 ≤ GlobalPlanning.headerFields line) :
    rows = (route c es).map waypoint ∧ ∃ body,
      convertTable float (writerow positionNames ++ waypointTable repr rows) =
        ⟨writerow columnNames ++ body, none⟩ ∧
      ∃ q' path, GlobalPlanning.loadWaypointsFromCSV p q (some (line ++ '\n' :: body)) = .ok q' ∧
        q'.globalPath = some path ∧
        path.points = (route c es).map fun fix => readBack p (gpsRow (waypoint fix)) := by
  have hrows : rows = (route c es).map waypoint :=
    (rows_of_step hfile).trans (recorded_of_run hrun).waypoints
  obtain ⟨q', hq'⟩ := GlobalPlanning.loadOrigin_accepted p q hsix
  have hload := convertRows_load p hline hq' (rows.map gpsRow)
  refine ⟨hrows, convertRows (rows.map gpsRow), convertTable_named hreads, _, _, hload, rfl, ?_⟩
  rw [hrows, List.map_map, List.map_map]
  rfl

end Route

/-- A first line that the planner accepts, with the origin of the converter. -/
def originLine : List Char := "0,0,0,39.79476,-86.234915,0.87".toList

theorem readsPosition_recordedTwo :
    ∀ w ∈ recordedTwo.waypoints, ReadsPosition readNumber printNumber w := by
  have hread : ∀ x ∈ printedNumbers.map Prod.fst, readNumber (printNumber x).text = some (x : ℝ) := by
    intro x hx
    have hfind : printedNumbers.find? (fun entry => entry.2.text = (printNumber x).text) =
        some (x, printNumber x) := by
      revert x
      decide +kernel
    rw [readNumber, hfind]
    rfl
  intro w hw x hx
  apply hread
  revert x
  revert w
  decide +kernel

/-- The two fixes of `recordTwo` become a track of two waypoints. -/
theorem recordedTwo_loads :
    recordedTwo.waypoints = (route defaults recordTwo).map waypoint ∧ ∃ body,
      convertTable readNumber (writerow positionNames ++ waypointTable printNumber recordedTwo.waypoints) =
        ⟨writerow columnNames ++ body, none⟩ ∧
      ∃ q' path, GlobalPlanning.loadWaypointsFromCSV realPlanner GlobalPlanning.initial
          (some (originLine ++ '\n' :: body)) = .ok q' ∧
        q'.globalPath = some path ∧
        path.points = (route defaults recordTwo).map fun fix =>
          readBack realPlanner (gpsRow (waypoint fix)) :=
  recordedRoute_loads (c := defaults) (s := recordedTwo) (e := .press (.char (some 'o')))
    (by decide +kernel) (by decide +kernel) readsPosition_recordedTwo realPlanner GlobalPlanning.initial
    (by decide) (by decide)

end HitchOpen.GpsToEnu
