import HitchOpen.SimpleControl.MpcController
import HitchOpen.SimpleControl.PidController

/-!
# The manager with its two plugins

What the manager makes of a list of the two controllers.  The lateral plugin checks that the path has
a waypoint before it reads any, and clips every index; it goes through on every state and leaves the
acceleration alone.  The longitudinal one reads the last waypoint unchecked.  So a control tick ends in
undefined behaviour exactly when it runs the longitudinal plugin on a path without waypoints.
-/

namespace HitchOpen.SimpleControl

open HitchOpen.EventMachine HitchOpen.Messages HitchOpen.Runtime HitchOpen.VehicleFlag

inductive Plugin (R : Type*)
  | pid (p : PidState R)
  | mpc (m : MpcState R)
  deriving DecidableEq

/-- The parameters of the manager and of its plugins. -/
structure ControllerConfig (R : Type*) where
  flagTimeout : R
  createdAt : R
  getYaw : Quaternion R → R
  /-- The plugins after their `setup`. -/
  plugins : List (Plugin R)
  pid : PidParams R
  mpc : MpcParams R

section Longitudinal

variable {R : Type*}

/-- The longitudinal plugins of a list. -/
def pids (ps : List (Plugin R)) : List (PidState R) :=
  ps.filterMap fun
    | .pid p => some p
    | .mpc _ => none

@[simp] theorem pids_pid (p : PidState R) (ps : List (Plugin R)) :
    pids (.pid p :: ps) = p :: pids ps := rfl

@[simp] theorem pids_mpc (m : MpcState R) (ps : List (Plugin R)) :
    pids (.mpc m :: ps) = pids ps := rfl

theorem mem_of_pids {p : PidState R} {ps : List (Plugin R)} (h : p ∈ pids ps) : .pid p ∈ ps := by
  obtain ⟨plugin, hmem, heq⟩ := List.mem_filterMap.mp h
  cases plugin with
  | pid q =>
      obtain rfl : q = p := Option.some.inj heq
      exact hmem
  | mpc m => cases heq

end Longitudinal

section Model

variable {R : Type*} [Field R] [LinearOrder R] [Sqrt R]

def Plugin.runStep (c : ControllerConfig R) (plugin : Plugin R) (state : State R) (now : R)
    (control : Control R) : Except Undefined (Plugin R × Control R) :=
  match plugin with
  | .pid p => do
      let (p, control) ← Pid.runStep c.pid p state now control
      return (.pid p, control)
  | .mpc m => do
      let (m, control) ← Mpc.runStep c.mpc m state control
      return (.mpc m, control)

/-- The manager with these plugins. -/
def ControllerConfig.manager (c : ControllerConfig R) : Config R (Plugin R) where
  flagTimeout := c.flagTimeout
  plugins := c.plugins
  runPlugin := Plugin.runStep c
  getYaw := c.getYaw
  createdAt := c.createdAt

/-! ### Which states the plugins go through on -/

/-- The last waypoint of a path that has none would be read. -/
def ReadsNoWaypoint (state : State R) (plugin : Plugin R) : Prop :=
  (∃ p, plugin = .pid p) ∧ state.vehicleState ≠ none ∧
    ∃ path, state.localPath = some path ∧ path.points = []

theorem Plugin.runStep_cases (c : ControllerConfig R) (plugin : Plugin R) (state : State R) (now : R)
    (control : Control R) :
    (ReadsNoWaypoint state plugin ∧ plugin.runStep c state now control = .error .outOfRange) ∨
    (¬ ReadsNoWaypoint state plugin ∧ ∃ r, plugin.runStep c state now control = .ok r) := by
  cases plugin with
  | mpc m =>
      obtain ⟨m', control', hrun, -⟩ := Mpc.runStep_ok c.mpc m state control
      refine .inr ⟨fun h => ?_, (.mpc m', control'), ?_⟩
      · obtain ⟨⟨_, hp⟩, -⟩ := h
        cases hp
      · rw [Plugin.runStep, hrun]
        rfl
  | pid p =>
      by_cases hidle : state.vehicleState = none ∨ state.localPath = none
      · refine .inr ⟨fun h => ?_, (.pid p, control), ?_⟩
        · obtain ⟨-, hv, path, hp, -⟩ := h
          rcases hidle with hidle | hidle
          · exact hv hidle
          · rw [hp] at hidle
            cases hidle
        · rw [Plugin.runStep, Pid.runStep_idle c.pid p now control hidle]
          rfl
      · push Not at hidle
        obtain ⟨vehicle, hv⟩ := Option.ne_none_iff_exists'.mp hidle.1
        obtain ⟨path, hp⟩ := Option.ne_none_iff_exists'.mp hidle.2
        by_cases hnil : path.points = []
        · refine .inl ⟨⟨⟨p, rfl⟩, hidle.1, path, hp, hnil⟩, ?_⟩
          rw [Plugin.runStep, Pid.runStep_empty c.pid p now control hv hp hnil]
          rfl
        · refine .inr ⟨fun h => ?_, ?_⟩
          · obtain ⟨-, -, path', hp', hnil'⟩ := h
            rw [hp] at hp'
            cases hp'
            exact hnil hnil'
          · rw [Plugin.runStep, Pid.runStep_drive c.pid p now control hv hp hnil]
            exact ⟨_, rfl⟩

/-- The loop over the plugins stops at the first one that reads what is not there. -/
theorem runPlugins_cases (c : ControllerConfig R) (state : State R) (now : R) (ps : List (Plugin R))
    (control : Control R) :
    ((∃ plugin ∈ ps, ReadsNoWaypoint state plugin) ∧
      runPlugins c.manager state now ps control = .error .outOfRange) ∨
    ((∀ plugin ∈ ps, ¬ ReadsNoWaypoint state plugin) ∧
      ∃ r, runPlugins c.manager state now ps control = .ok r) := by
  induction ps generalizing control with
  | nil => exact .inr ⟨fun _ h => absurd h List.not_mem_nil, ([], control), rfl⟩
  | cons plugin ps ih =>
      have hcons : runPlugins c.manager state now (plugin :: ps) control =
          (plugin.runStep c state now control).bind fun r =>
            (runPlugins c.manager state now ps r.2).bind fun q => .ok (r.1 :: q.1, q.2) := rfl
      rw [hcons]
      rcases plugin.runStep_cases c state now control with ⟨hbad, hrun⟩ | ⟨hgood, ⟨r, hrun⟩⟩
      · rw [hrun]
        exact .inl ⟨⟨plugin, List.mem_cons_self, hbad⟩, rfl⟩
      · rw [hrun]
        rcases ih r.2 with ⟨⟨q, hq, hbad⟩, hrest⟩ | ⟨hall, ⟨q, hrest⟩⟩
        · refine .inl ⟨⟨q, List.mem_cons_of_mem _ hq, hbad⟩, ?_⟩
          show (runPlugins c.manager state now ps r.2).bind _ = _
          rw [hrest]
          rfl
        · refine .inr ⟨List.forall_mem_cons.mpr ⟨hgood, hall⟩, ⟨(r.1 :: q.1, q.2), ?_⟩⟩
          show (runPlugins c.manager state now ps r.2).bind _ = _
          rw [hrest]
          rfl

/-! ### What the plugins do to the acceleration -/

theorem runPlugins_mpc (c : ControllerConfig R) (m : MpcState R) (ps : List (Plugin R))
    (state : State R) (now : R) (control : Control R) :
    ∃ m' control', control'.acceleration = control.acceleration ∧
      runPlugins c.manager state now (.mpc m :: ps) control =
        (runPlugins c.manager state now ps control').map fun r => (.mpc m' :: r.1, r.2) := by
  obtain ⟨m', control', hrun, hacc⟩ := Mpc.runStep_ok c.mpc m state control
  refine ⟨m', control', hacc, ?_⟩
  show (Plugin.runStep c (.mpc m) state now control).bind _ = _
  rw [Plugin.runStep, hrun]
  show (runPlugins c.manager state now ps control').bind _ = _
  cases runPlugins c.manager state now ps control' <;> rfl

theorem runPlugins_pid (c : ControllerConfig R) {p p' : PidState R} (ps : List (Plugin R))
    {state : State R} {now : R} {control control' : Control R}
    (h : Pid.runStep c.pid p state now control = .ok (p', control')) :
    runPlugins c.manager state now (.pid p :: ps) control =
      (runPlugins c.manager state now ps control').map fun r => (.pid p' :: r.1, r.2) := by
  show (Plugin.runStep c (.pid p) state now control).bind _ = _
  rw [Plugin.runStep, h]
  show (runPlugins c.manager state now ps control').bind _ = _
  cases runPlugins c.manager state now ps control' <;> rfl

/-- Lateral plugins alone leave the acceleration as it is. -/
theorem runPlugins_lateral (c : ControllerConfig R) (state : State R) (now : R)
    (ps : List (Plugin R)) (hps : pids ps = []) (control : Control R) :
    ∃ ps' control', runPlugins c.manager state now ps control = .ok (ps', control') ∧
      pids ps' = [] ∧ control'.acceleration = control.acceleration := by
  induction ps generalizing control with
  | nil => exact ⟨[], control, rfl, rfl, rfl⟩
  | cons plugin ps ih =>
      cases plugin with
      | pid p => cases hps
      | mpc m =>
          obtain ⟨m', control', hacc, hrun⟩ := runPlugins_mpc c m ps state now control
          obtain ⟨ps', control'', hrest, hnone, hacc'⟩ := ih hps control'
          rw [hrun, hrest]
          exact ⟨.mpc m' :: ps', control'', rfl, hnone, hacc'.trans hacc⟩

/-- With one longitudinal plugin among them, the plugins end with what this one makes of its state and
of the acceleration. -/
theorem runPlugins_longitudinal (c : ControllerConfig R) {state : State R} {now : R}
    {p p' : PidState R} (acceleration : Control R → R)
    (hpid : ∀ control, ∃ control', Pid.runStep c.pid p state now control = .ok (p', control') ∧
      control'.acceleration = acceleration control)
    (hacc : ∀ control control' : Control R, control.acceleration = control'.acceleration →
      acceleration control = acceleration control')
    (ps : List (Plugin R)) (hps : pids ps = [p]) (control : Control R) :
    ∃ ps' control', runPlugins c.manager state now ps control = .ok (ps', control') ∧
      pids ps' = [p'] ∧ control'.acceleration = acceleration control := by
  induction ps generalizing control with
  | nil => cases hps
  | cons plugin ps ih =>
      cases plugin with
      | pid q =>
          obtain ⟨rfl, hnone⟩ := List.cons.inj hps
          obtain ⟨control', hrun, hc⟩ := hpid control
          obtain ⟨ps', control'', hrest, hnone', hc'⟩ :=
            runPlugins_lateral c state now ps hnone control'
          rw [runPlugins_pid c ps hrun, hrest]
          refine ⟨.pid p' :: ps', control'', rfl, ?_, hc'.trans hc⟩
          rw [pids_pid, hnone']
      | mpc m =>
          obtain ⟨m', control', hc, hrun⟩ := runPlugins_mpc c m ps state now control
          obtain ⟨ps', control'', hrest, hone, hc'⟩ := ih hps control'
          rw [hrun, hrest]
          exact ⟨.mpc m' :: ps', control'', rfl, hone, hc'.trans (hacc control' control hc)⟩

/-- Without a vehicle state or a path the command keeps its acceleration. -/
theorem runPlugins_idle (c : ControllerConfig R) {state : State R} (now : R) {p : PidState R}
    (hidle : state.vehicleState = none ∨ state.localPath = none) (ps : List (Plugin R))
    (hps : pids ps = [p]) (control : Control R) :
    ∃ ps' control', runPlugins c.manager state now ps control = .ok (ps', control') ∧
      pids ps' = [p] ∧ control'.acceleration = control.acceleration :=
  runPlugins_longitudinal c (fun control => control.acceleration)
    (fun control => ⟨control, Pid.runStep_idle c.pid p now control hidle, rfl⟩)
    (fun _ _ h => h) ps hps control

/-- With a waypoint to follow the command carries the new acceleration of the longitudinal plugin. -/
theorem runPlugins_drive (c : ControllerConfig R) {state : State R} (now : R) {p : PidState R}
    {vehicle : VehicleState R} {path : Path R} (hv : state.vehicleState = some vehicle)
    (hp : state.localPath = some path) (hne : path.points ≠ []) (ps : List (Plugin R))
    (hps : pids ps = [p]) (control : Control R) :
    ∃ ps' control', runPlugins c.manager state now ps control = .ok (ps', control') ∧
      pids ps' =
        [Pid.advance c.pid p (Pid.trackingError c.pid vehicle (path.points.getLast hne)) now] ∧
      control'.acceleration =
        (Pid.advance c.pid p (Pid.trackingError c.pid vehicle (path.points.getLast hne)) now).lastAccel :=
  runPlugins_longitudinal c (fun _ =>
      (Pid.advance c.pid p (Pid.trackingError c.pid vehicle (path.points.getLast hne)) now).lastAccel)
    (fun control => ⟨_, Pid.runStep_drive c.pid p now control hv hp hne, rfl⟩)
    (fun _ _ _ => rfl) ps hps control

/-! ### A control tick with one longitudinal plugin -/

theorem driving_idle (c : ControllerConfig R) {s : ManagerState R (Plugin R)} (now : R)
    {p : PidState R} (hd : Driving s) (hidle : s.localPath = none ∨ s.odom = none)
    (hone : pids s.plugins = [p]) :
    ∃ ps control, runStep c.manager s now =
        .done { s with plugins := ps } [.control .plugins control] ∧
      pids ps = [p] ∧ control.acceleration = 0 := by
  obtain ⟨ps, control, hrun, hp, hacc⟩ :=
    runPlugins_idle c now (.inl (generateCurrentState_incomplete c.manager hidle)) s.plugins hone
      newControl
  exact ⟨ps, control, runStep_driving c.manager now hd hrun, hp, hacc⟩

theorem driving_empty (c : ControllerConfig R) {s : ManagerState R (Plugin R)} (now : R)
    {p : PidState R} {path : Path R} {odom : Odometry R} (hd : Driving s)
    (hpath : s.localPath = some path) (hodom : s.odom = some odom) (hnil : path.points = [])
    (hone : pids s.plugins = [p]) : runStep c.manager s now = .halt s [] .outOfRange := by
  have hmem : Plugin.pid p ∈ s.plugins := mem_of_pids (hone ▸ List.mem_singleton_self p)
  rcases runPlugins_cases c (generateCurrentState c.manager s) now s.plugins newControl with
    ⟨-, hrun⟩ | ⟨hgood, -⟩
  · exact runStep_undefined c.manager now hd hrun
  · refine absurd ⟨⟨p, rfl⟩, ?_, path, ?_, hnil⟩ (hgood (.pid p) hmem)
    · rw [generateCurrentState_complete c.manager hpath hodom]
      simp
    · rw [generateCurrentState_complete c.manager hpath hodom]

/-- The vehicle state that an odometry message stands for. -/
def ControllerConfig.vehicle (c : ControllerConfig R) (odom : Odometry R) : VehicleState R :=
  ⟨odom.position.x, odom.position.y, c.getYaw odom.orientation, odom.twistLinearX⟩

theorem driving_drive (c : ControllerConfig R) {s : ManagerState R (Plugin R)} (now : R)
    {p : PidState R} {path : Path R} {odom : Odometry R} (hd : Driving s)
    (hpath : s.localPath = some path) (hodom : s.odom = some odom) (hne : path.points ≠ [])
    (hone : pids s.plugins = [p]) :
    ∃ ps control, runStep c.manager s now =
        .done { s with plugins := ps } [.control .plugins control] ∧
      pids ps = [Pid.advance c.pid p
        (Pid.trackingError c.pid (c.vehicle odom) (path.points.getLast hne)) now] ∧
      control.acceleration = (Pid.advance c.pid p
        (Pid.trackingError c.pid (c.vehicle odom) (path.points.getLast hne)) now).lastAccel := by
  have hstate := generateCurrentState_complete c.manager hpath hodom
  have hvehicle : (generateCurrentState c.manager s).vehicleState = some (c.vehicle odom) := by
    rw [hstate]
    rfl
  have hlocal : (generateCurrentState c.manager s).localPath = some path := by rw [hstate]
  obtain ⟨ps, control, hrun, hp, hacc⟩ :=
    runPlugins_drive c now hvehicle hlocal hne s.plugins hone newControl
  exact ⟨ps, control, runStep_driving c.manager now hd hrun, hp, hacc⟩

/-- A control tick keeps the longitudinal plugin, whatever it does to its members. -/
theorem runStep_one (c : ControllerConfig R) {s : ManagerState R (Plugin R)} (now : R)
    (hone : ∃ p, pids s.plugins = [p]) : ∃ p, pids (runStep c.manager s now).state.plugins = [p] := by
  obtain ⟨p, hone⟩ := hone
  by_cases hd : Driving s
  · by_cases hidle : s.localPath = none ∨ s.odom = none
    · obtain ⟨ps, control, hrun, hp, -⟩ := driving_idle c now hd hidle hone
      exact ⟨p, by rw [hrun]; exact hp⟩
    · push Not at hidle
      obtain ⟨path, hpath⟩ := Option.ne_none_iff_exists'.mp hidle.1
      obtain ⟨odom, hodom⟩ := Option.ne_none_iff_exists'.mp hidle.2
      by_cases hnil : path.points = []
      · exact ⟨p, by rw [driving_empty c now hd hpath hodom hnil hone]; exact hone⟩
      · obtain ⟨ps, control, hrun, hp, -⟩ := driving_drive c now hd hpath hodom hnil hone
        exact ⟨_, by rw [hrun]; exact hp⟩
  · exact ⟨p, by rw [runStep_brake c.manager now hd]; exact hone⟩

theorem step_one (c : ControllerConfig R) (s : ManagerState R (Plugin R)) (e : Event R)
    (hone : ∃ p, pids s.plugins = [p]) : ∃ p, pids (step c.manager s e).state.plugins = [p] := by
  obtain ⟨now, callback⟩ := e
  cases callback with
  | controlTimer => exact runStep_one c now hone
  | flagCheckTimer =>
      simp only [step, checkFlagTimeout, Reply.done_state]
      split <;> exact hone
  | shouldPublishControl data => exact hone
  | vehicleFlag flag => exact hone
  | localPath msg => exact hone
  | odom msg => exact hone

end Model

end HitchOpen.SimpleControl
