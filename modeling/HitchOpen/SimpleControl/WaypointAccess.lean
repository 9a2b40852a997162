import HitchOpen.SimpleControl.Plugins

/-!
# Which control ticks read waypoints that exist

The planner can publish a path without waypoints, and the manager stores whatever arrives.  The lateral
plugin is safe on every path, the longitudinal one on every path but the empty one.
-/

namespace HitchOpen.SimpleControl

open HitchOpen.EventMachine HitchOpen.Messages HitchOpen.Runtime HitchOpen.VehicleFlag

section

variable {R : Type*}

/-- The tick runs the longitudinal plugin while the stored path has no waypoint. -/
def EmptyPathTick (s : ManagerState R (Plugin R)) (e : Event R) : Prop :=
  e.callback = .controlTimer ∧ Driving s ∧ s.odom ≠ none ∧
    (∃ path, s.localPath = some path ∧ path.points = []) ∧ ∃ p, .pid p ∈ s.plugins

variable [Field R] [LinearOrder R] [Sqrt R]

/-- What the plugins are given lacks a waypoint when the stored path does. -/
theorem readsNoWaypoint_iff (c : ControllerConfig R) (s : ManagerState R (Plugin R)) :
    (∃ plugin ∈ s.plugins, ReadsNoWaypoint (generateCurrentState c.manager s) plugin) ↔
      s.odom ≠ none ∧ (∃ path, s.localPath = some path ∧ path.points = []) ∧
        ∃ p, .pid p ∈ s.plugins := by
  by_cases hidle : s.localPath = none ∨ s.odom = none
  · refine iff_of_false ?_ ?_
    · intro h
      obtain ⟨_, -, -, hv, -⟩ := h
      exact hv (generateCurrentState_incomplete c.manager hidle)
    · intro h
      obtain ⟨ho, ⟨path, hp, -⟩, -⟩ := h
      rcases hidle with hidle | hidle
      · rw [hp] at hidle
        cases hidle
      · exact ho hidle
  · push Not at hidle
    obtain ⟨path, hp⟩ := Option.ne_none_iff_exists'.mp hidle.1
    obtain ⟨odom, ho⟩ := Option.ne_none_iff_exists'.mp hidle.2
    rw [generateCurrentState_complete c.manager hp ho]
    refine ⟨?_, ?_⟩
    · intro h
      obtain ⟨_, hmem, ⟨p, rfl⟩, -, path', hp', hnil⟩ := h
      cases hp'
      exact ⟨hidle.2, ⟨path, hp, hnil⟩, p, hmem⟩
    · intro h
      obtain ⟨-, ⟨path', hp', hnil⟩, p, hmem⟩ := h
      rw [hp] at hp'
      cases hp'
      exact ⟨.pid p, hmem, ⟨p, rfl⟩, by simp, path, rfl, hnil⟩

/-- A step reads past the end of a path exactly when it is such a tick. -/
theorem step_outOfRange_iff (c : ControllerConfig R) (s : ManagerState R (Plugin R)) (e : Event R) :
    (step c.manager s e).stop = some .outOfRange ↔ EmptyPathTick s e := by
  obtain ⟨now, callback⟩ := e
  cases callback with
  | controlTimer =>
      by_cases hdrive : Driving s
      · have hreads := readsNoWaypoint_iff c s
        rcases runPlugins_cases c (generateCurrentState c.manager s) now s.plugins newControl with
          ⟨hbad, hrun⟩ | ⟨hgood, ⟨r, hrun⟩⟩
        · simp only [step, runStep_undefined c.manager now hdrive hrun, Reply.halt_stop]
          exact iff_of_true trivial ⟨rfl, hdrive, hreads.mp hbad⟩
        · simp only [step, runStep_driving c.manager now hdrive hrun, Reply.done_stop]
          refine iff_of_false (by simp) fun h => ?_
          obtain ⟨plugin, hmem, hbad⟩ := hreads.mpr h.2.2
          exact hgood plugin hmem hbad
      · simp only [step, runStep_brake c.manager now hdrive, Reply.done_stop]
        exact iff_of_false (by simp) fun h => hdrive h.2.1
  | shouldPublishControl data => exact iff_of_false (by simp [step]) fun h => by cases h.1
  | vehicleFlag flag => exact iff_of_false (by simp [step]) fun h => by cases h.1
  | localPath msg => exact iff_of_false (by simp [step]) fun h => by cases h.1
  | odom msg => exact iff_of_false (by simp [step]) fun h => by cases h.1
  | flagCheckTimer => exact iff_of_false (by simp [step]) fun h => by cases h.1

/-- **Waypoint accesses.**  Along a run every waypoint that a plugin reads lies inside its path, if and
only if no control tick runs the longitudinal plugin on a path without waypoints. -/
theorem waypoints_inside_iff (c : ControllerConfig R) (es : List (Event R)) :
    (managerNode c.manager).EachStep (init c.manager) es
        (fun s e => (step c.manager s e).stop ≠ some .outOfRange) ↔
      (managerNode c.manager).EachStep (init c.manager) es fun s e => ¬ EmptyPathTick s e := by
  refine ⟨?_, ?_⟩
  · intro h pre e s hpre hrun htick
    exact h pre e s hpre hrun ((step_outOfRange_iff c s e).mpr htick)
  · intro h pre e s hpre hrun hstop
    exact h pre e s hpre hrun ((step_outOfRange_iff c s e).mp hstop)

end

/-- Both plugins with small gains, and headings that are left at zero. -/
def bothPlugins : ControllerConfig ℚ where
  flagTimeout := 1
  createdAt := 0
  getYaw := Quaternion.z
  plugins := [.pid (Pid.setup 0), .mpc Mpc.setup]
  pid := ⟨1, 1, 1, 5, -5, 1 / 10, 1 / 10, 80⟩
  mpc := ⟨10, 3, 1 / 10, 1 / 2, 1, 1, 1 / 10, fun _ => 0, fun _ => 1, fun _ _ => 0, 10 ^ 300⟩

/-- The vehicle stands still at the origin. -/
def standingOdom : Odometry ℚ := ⟨⟨0, "map"⟩, ⟨0, 0, 0⟩, ⟨0, 0, 0, 1⟩, 0⟩

/-- A path without waypoints arrives while the flag is green. -/
def emptyPath : List (Event ℚ) :=
  [⟨1, .odom standingOdom⟩, ⟨1, .localPath ⟨⟨1, "map"⟩, []⟩⟩, ⟨1, .vehicleFlag GREEN⟩,
    ⟨1, .controlTimer⟩]

theorem emptyPath_reads_outside :
    ¬ ∀ es, (managerNode bothPlugins.manager).EachStep (init bothPlugins.manager) es
      fun s e => (step bothPlugins.manager s e).stop ≠ some .outOfRange := by
  intro h
  refine h emptyPath (emptyPath.take 3) ⟨1, .controlTimer⟩ _ (by simp [emptyPath]) rfl ?_
  decide +kernel

end HitchOpen.SimpleControl
