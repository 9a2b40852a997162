import HitchOpen.Library.Erasure
import HitchOpen.SimpleControl.WaypointAccess

/-!
# What a pause does to the longitudinal plugin

While the manager brakes it does not call its plugins, and no callback tells them about it: the first
step after a pause finds the members as the last one before it has left them, its clock included.
`run_lastTime` says what that clock reads.  So the pause counts as one long step, and
`firstStep_after_pause` compares two pauses of different lengths.
-/

namespace HitchOpen.SimpleControl

open HitchOpen.EventMachine HitchOpen.Messages HitchOpen.Runtime HitchOpen.VehicleFlag

section

variable {R : Type*}

/-- If the step is a control tick, it brakes. -/
def Brakes (s : ManagerState R (Plugin R)) (e : Event R) : Prop :=
  e.callback = .controlTimer → ¬ Driving s

instance [DecidableEq R] (s : ManagerState R (Plugin R)) (e : Event R) : Decidable (Brakes s e) :=
  inferInstanceAs (Decidable (_ → _))

/-- The reading at which the event lets the longitudinal plugin step, if it does: the plugins run, and
there are a path and a vehicle state to run them on. -/
def stepTime (s : ManagerState R (Plugin R)) (e : Event R) : List R :=
  match e.callback with
  | .controlTimer => if Driving s ∧ s.localPath.isSome ∧ s.odom.isSome then [e.now] else []
  | _ => []

/-- Two states with the plugins `ps` that differ in the flag and its time at most. -/
structure Alike (ps : List (Plugin R)) (s t : ManagerState R (Plugin R)) : Prop where
  plugins : s.plugins = ps
  plugins' : t.plugins = ps
  localPath : s.localPath = t.localPath
  odom : s.odom = t.odom

theorem checkFlagTimeout_plugins [Field R] [LinearOrder R] (c : Config R (Plugin R))
    (s : ManagerState R (Plugin R)) (now : R) :
    (checkFlagTimeout c s now).plugins = s.plugins ∧
      (checkFlagTimeout c s now).localPath = s.localPath ∧
      (checkFlagTimeout c s now).odom = s.odom := by
  rw [checkFlagTimeout]
  split <;> exact ⟨rfl, rfl, rfl⟩

variable [Field R] [LinearOrder R] [Sqrt R]

/-- The same callback keeps two states alike, whatever the clock says to each. -/
theorem step_alike (c : ControllerConfig R) (ps : List (Plugin R)) (s t : ManagerState R (Plugin R))
    (e f : Event R) (h : Alike ps s t) (hef : e.callback = f.callback) (he : Brakes s e)
    (hf : Brakes t f) :
    (step c.manager s e).stop = (step c.manager t f).stop ∧
      Alike ps (step c.manager s e).state (step c.manager t f).state := by
  obtain ⟨now, callback⟩ := e
  obtain ⟨now', callback'⟩ := f
  obtain rfl : callback = callback' := hef
  cases callback with
  | controlTimer =>
      simp only [step, runStep_brake c.manager now (he rfl), runStep_brake c.manager now' (hf rfl)]
      exact ⟨rfl, h⟩
  | flagCheckTimer =>
      obtain ⟨hp, hl, ho⟩ := checkFlagTimeout_plugins c.manager s now
      obtain ⟨hp', hl', ho'⟩ := checkFlagTimeout_plugins c.manager t now'
      exact ⟨rfl, hp.trans h.plugins, hp'.trans h.plugins', hl.trans (h.localPath.trans hl'.symm),
        ho.trans (h.odom.trans ho'.symm)⟩
  | shouldPublishControl data => exact ⟨rfl, h.plugins, h.plugins', h.localPath, h.odom⟩
  | vehicleFlag flag => exact ⟨rfl, h.plugins, h.plugins', h.localPath, h.odom⟩
  | localPath msg => exact ⟨rfl, h.plugins, h.plugins', rfl, h.odom⟩
  | odom msg => exact ⟨rfl, h.plugins, h.plugins', h.localPath, rfl⟩

/-! ### The clock of the plugin -/

/-- The readings of the clock at the steps of the longitudinal plugin in a run from the start. -/
def stepTimes (c : ControllerConfig R) (es : List (Event R)) : List R :=
  (managerNode c.manager).collect stepTime (init c.manager) es

/-- A control tick stores its reading if the plugin steps, and keeps the one before it otherwise. -/
theorem runStep_lastTime (c : ControllerConfig R) {s : ManagerState R (Plugin R)} {now : R}
    {p : PidState R} (hone : pids s.plugins = [p]) (hd : (runStep c.manager s now).stop = none) :
    ∃ q, pids (runStep c.manager s now).state.plugins = [q] ∧
      q.lastTime = (stepTime s ⟨now, .controlTimer⟩).getLastD p.lastTime := by
  by_cases hdrive : Driving s
  · by_cases hidle : s.localPath = none ∨ s.odom = none
    · obtain ⟨ps, control, hrun, hp, -⟩ := driving_idle c now hdrive hidle hone
      refine ⟨p, by rw [hrun]; exact hp, ?_⟩
      rw [stepTime, if_neg (by rcases hidle with h | h <;> simp [h])]
      rfl
    · push Not at hidle
      obtain ⟨path, hpath⟩ := Option.ne_none_iff_exists'.mp hidle.1
      obtain ⟨odom, hodom⟩ := Option.ne_none_iff_exists'.mp hidle.2
      by_cases hnil : path.points = []
      · rw [driving_empty c now hdrive hpath hodom hnil hone] at hd
        cases hd
      · obtain ⟨ps, control, hrun, hp, -⟩ := driving_drive c now hdrive hpath hodom hnil hone
        refine ⟨_, by rw [hrun]; exact hp, ?_⟩
        rw [stepTime, if_pos ⟨hdrive, by rw [hpath]; rfl, by rw [hodom]; rfl⟩]
        rfl
  · refine ⟨p, by rw [runStep_brake c.manager now hdrive]; exact hone, ?_⟩
    rw [stepTime, if_neg fun h => hdrive h.1]
    rfl

/-- **The clock of the plugin.**  `last_time_` is the reading at the last step of the plugin, or that
of its `setup` before the first one. -/
theorem run_lastTime (c : ControllerConfig R) {setupTime : R}
    (hone : pids c.plugins = [Pid.setup setupTime]) {es : List (Event R)}
    {s : ManagerState R (Plugin R)} (h : (managerNode c.manager).runFrom (init c.manager) es = some s) :
    ∃ p, pids s.plugins = [p] ∧ p.lastTime = (stepTimes c es).getLastD setupTime := by
  refine (managerNode c.manager).runFrom_collect_induct
    (R := fun ks s => ∃ p, pids s.plugins = [p] ∧ p.lastTime = ks.getLastD setupTime)
    ⟨_, hone, rfl⟩ ?_ h
  intro ks s e hs hd
  obtain ⟨p, hp, hlast⟩ := hs
  obtain ⟨now, callback⟩ := e
  cases callback with
  | controlTimer =>
      obtain ⟨q, hq, hq'⟩ := runStep_lastTime c hp hd
      refine ⟨q, hq, ?_⟩
      simp only [hq', hlast, List.getLastD_eq_getLast?, List.getLast?_append, Option.getD_or]
  | flagCheckTimer =>
      obtain ⟨hplugins, -, -⟩ := checkFlagTimeout_plugins c.manager s now
      exact ⟨p, hplugins ▸ hp, (List.append_nil ks).symm ▸ hlast⟩
  | shouldPublishControl data => exact ⟨p, hp, (List.append_nil ks).symm ▸ hlast⟩
  | vehicleFlag flag => exact ⟨p, hp, (List.append_nil ks).symm ▸ hlast⟩
  | localPath msg => exact ⟨p, hp, (List.append_nil ks).symm ▸ hlast⟩
  | odom msg => exact ⟨p, hp, (List.append_nil ks).symm ▸ hlast⟩

/-! ### Two pauses -/

/-- A control tick at `now` runs the plugins, which leave the longitudinal one in `q` and publish
`msg`. -/
def Drives (c : ControllerConfig R) (s : ManagerState R (Plugin R)) (now : R) (q : PidState R)
    (msg : Control R) : Prop :=
  ∃ ps, step c.manager s ⟨now, .controlTimer⟩ =
    .done { s with plugins := ps } [.control .plugins msg] ∧ pids ps = [q]

/-- The step from the members `p` counts all the time since `last`. -/
structure CountsFrom (c : PidParams R) (p : PidState R) (last error now : R) (q : PidState R)
    (msg : Control R) : Prop where
  integralError : q.integralError = p.integralError + error * (now - last)
  prevError : q.prevError = error
  acceleration : msg.acceleration = Pid.approach c p.lastAccel
    (Pid.desiredAccel c error q.integralError p.prevError (now - last))

theorem drives_countsFrom (c : ControllerConfig R) {s : ManagerState R (Plugin R)} (now : R)
    {p : PidState R} {path : Path R} {odom : Odometry R} (hd : Driving s)
    (hpath : s.localPath = some path) (hodom : s.odom = some odom) (hne : path.points ≠ [])
    (hone : pids s.plugins = [p]) :
    ∃ q msg, Drives c s now q msg ∧ CountsFrom c.pid p p.lastTime
      (Pid.trackingError c.pid (c.vehicle odom) (path.points.getLast hne)) now q msg := by
  obtain ⟨ps, msg, hrun, hq, hacc⟩ := driving_drive c now hd hpath hodom hne hone
  exact ⟨_, msg, ⟨ps, hrun, hq⟩, rfl, rfl, hacc⟩

/-- **The first step after a pause.**  Two runs from a state `s` of the node handle the same callbacks
in the same order and only brake; the clock readings of each are its own.  The tracking error of the
first step afterwards is the same in both, and it is integrated over all the time since the last step of
the plugin before the pause (or since its `setup`, if there has been none), so that the integrals differ
by the error times the difference between the readings. -/
theorem firstStep_after_pause (c : ControllerConfig R) (setupTime : R)
    (hone : pids c.plugins = [Pid.setup setupTime]) (pre : List (Event R))
    (s : ManagerState R (Plugin R))
    (hs : (managerNode c.manager).runFrom (init c.manager) pre = some s) (es fs : List (Event R))
    (hsame : List.Forall₂ (fun e f => e.callback = f.callback) es fs)
    (hes : (managerNode c.manager).EachStep s es Brakes)
    (hfs : (managerNode c.manager).EachStep s fs Brakes) (t u : ManagerState R (Plugin R))
    (ht : (managerNode c.manager).runFrom s es = some t)
    (hu : (managerNode c.manager).runFrom s fs = some u) (hdt : Driving t) (hdu : Driving u)
    (path : Path R) (odom : Odometry R) (hpath : t.localPath = some path)
    (hodom : t.odom = some odom) (hne : path.points ≠ []) (now now' : R) :
    ∃ p error q msg q' msg', pids s.plugins = [p] ∧ Drives c t now q msg ∧ Drives c u now' q' msg' ∧
      CountsFrom c.pid p ((stepTimes c pre).getLastD setupTime) error now q msg ∧
      CountsFrom c.pid p ((stepTimes c pre).getLastD setupTime) error now' q' msg' ∧
      q'.integralError - q.integralError = error * (now' - now) ∧
      (q.integralError = q'.integralError ↔ error = 0 ∨ now = now') := by
  obtain ⟨p, hp, hlast⟩ := run_lastTime c hone hs
  rw [← hlast]
  have halike := (managerNode c.manager).runFrom_lockstep (step_alike c s.plugins)
    (⟨rfl, rfl, rfl, rfl⟩ : Alike s.plugins s s) hsame hes hfs
  rw [ht, hu] at halike
  obtain ⟨htp, hup, hl, ho⟩ := Option.rel_some_some.mp halike
  obtain ⟨q, msg, hdrive, hcount⟩ :=
    drives_countsFrom c now hdt hpath hodom hne (htp ▸ hp)
  obtain ⟨q', msg', hdrive', hcount'⟩ :=
    drives_countsFrom c now' hdu (hl ▸ hpath) (ho ▸ hodom) hne (hup ▸ hp)
  have hdiff : q'.integralError - q.integralError =
      Pid.trackingError c.pid (c.vehicle odom) (path.points.getLast hne) * (now' - now) := by
    rw [hcount.integralError, hcount'.integralError]
    ring
  refine ⟨p, _, q, msg, q', msg', hp, hdrive, hdrive', hcount, hcount', hdiff, ?_⟩
  rw [eq_comm, ← sub_eq_zero, hdiff, mul_eq_zero, sub_eq_zero, eq_comm (a := now')]

end

/-- An acceleration that is not held back by its limits. -/
def unhurried : ControllerConfig ℚ :=
  { bothPlugins with pid := ⟨1, 1, 0, 1000, -1000, 1000, 1000, 80⟩ }

/-- One step under a green flag. -/
def firstStep : List (Event ℚ) :=
  [⟨1, .odom standingOdom⟩, ⟨1, .localPath ⟨⟨1, "map"⟩, [⟨⟨0, 0, 0⟩, 10⟩]⟩⟩,
    ⟨1, .vehicleFlag GREEN⟩, ⟨1, .controlTimer⟩]

/-- The manager after it, or later with another flag message. -/
def afterFirstStep (lastFlagTime : ℚ) : ManagerState ℚ (Plugin ℚ) where
  shouldPublishControl := true
  vehicleFlag := GREEN
  localPath := some ⟨⟨1, "map"⟩, [⟨⟨0, 0, 0⟩, 10⟩]⟩
  plugins := [.pid ⟨10, 10, 1, 20⟩, .mpc ⟨0⟩]
  odom := some standingOdom
  lastFlagTime := lastFlagTime

/-- A red flag that is followed by a green one at the reading `d`. -/
def pauseUntil (d : ℚ) : List (Event ℚ) :=
  [⟨2, .vehicleFlag RED⟩, ⟨2, .controlTimer⟩, ⟨d, .vehicleFlag GREEN⟩]

theorem pauseUntil_same (d d' : ℚ) :
    List.Forall₂ (fun e f => e.callback = f.callback) (pauseUntil d) (pauseUntil d') := by
  simp [pauseUntil]

/-- The plugin has stepped at 1; the pause ends at 3 in one run and at 13 in the other. -/
theorem firstStep_after_pause_ten :
    ∃ error q msg q' msg', Drives unhurried (afterFirstStep 3) 3 q msg ∧
      Drives unhurried (afterFirstStep 13) 13 q' msg' ∧
      q.integralError = 10 + error * (3 - 1) ∧ q'.integralError = 10 + error * (13 - 1) ∧
      q'.integralError - q.integralError = error * (13 - 3) := by
  obtain ⟨p, error, q, msg, q', msg', hp, hdrive, hdrive', hcount, hcount', hdiff, -⟩ :=
    firstStep_after_pause unhurried 0 rfl firstStep (afterFirstStep 1) (by decide +kernel)
      (pauseUntil 3) (pauseUntil 13) (pauseUntil_same 3 13) (by decide +kernel) (by decide +kernel)
      (afterFirstStep 3) (afterFirstStep 13) (by decide +kernel) (by decide +kernel) ⟨rfl, rfl⟩
      ⟨rfl, rfl⟩ ⟨⟨1, "map"⟩, [⟨⟨0, 0, 0⟩, 10⟩]⟩ standingOdom rfl rfl (by simp) 3 13
  obtain rfl : ⟨10, 10, 1, 20⟩ = p := List.singleton_inj.mp hp
  have hlast : (stepTimes unhurried firstStep).getLastD 0 = 1 := by decide +kernel
  rw [hlast] at hcount hcount'
  exact ⟨error, q, msg, q', msg', hdrive, hdrive', hcount.integralError, hcount'.integralError, hdiff⟩

/-- Ten more seconds of braking, and both the integral and the acceleration are a hundred higher. -/
theorem pause_changes_firstStep :
    ¬ ∀ (c : ControllerConfig ℚ) pre es fs s t u now now' q msg q' msg',
      (managerNode c.manager).runFrom (init c.manager) pre = some s →
      List.Forall₂ (fun e f => e.callback = f.callback) es fs →
      (managerNode c.manager).EachStep s es Brakes → (managerNode c.manager).EachStep s fs Brakes →
      (managerNode c.manager).runFrom s es = some t → (managerNode c.manager).runFrom s fs = some u →
      Drives c t now q msg → Drives c u now' q' msg' →
      q.integralError = q'.integralError ∧ msg.acceleration = msg'.acceleration := by
  intro h
  have hsame := h unhurried firstStep (pauseUntil 3) (pauseUntil 13) (afterFirstStep 1)
    (afterFirstStep 3) (afterFirstStep 13) 3 13 ⟨10, 30, 3, 40⟩ ⟨40, true, 0, false⟩
    ⟨10, 130, 13, 140⟩ ⟨140, true, 0, false⟩ (by decide +kernel) (pauseUntil_same 3 13)
    (by decide +kernel) (by decide +kernel) (by decide +kernel) (by decide +kernel)
    ⟨[.pid ⟨10, 30, 3, 40⟩, .mpc ⟨0⟩], by decide +kernel, rfl⟩
    ⟨[.pid ⟨10, 130, 13, 140⟩, .mpc ⟨0⟩], by decide +kernel, rfl⟩
  exact absurd hsame.1 (by decide +kernel)

end HitchOpen.SimpleControl
