import HitchOpen.SimpleControl.WaypointAccess
import Mathlib.Data.List.Chain
import Mathlib.Order.Lattice

/-!
# How fast the published acceleration rises

The longitudinal plugin raises its acceleration by at most one step at a time, counted from the value it
wrote last.  What the manager publishes in between, the brake command and the default of a command that
no plugin has filled in, is unknown to it: after a brake episode it goes on from where it was.

`Limits` says when no desired acceleration can make the plugin jump from a given value, and
`step_gradual` what a control tick publishes after a given command.
-/

namespace HitchOpen.SimpleControl

open HitchOpen.EventMachine HitchOpen.Messages HitchOpen.Runtime HitchOpen.VehicleFlag

section

variable {R : Type*}

/-- The accelerations of what has been published, in order. -/
def accelerations (out : List (Output R)) : List R :=
  out.map fun | .control _ msg => msg.acceleration

/-- The accelerations rise by at most `accelStep` from one command to the next. -/
def Gradual [Add R] [LE R] (accelStep : R) (out : List (Output R)) : Prop :=
  (accelerations out).IsChain fun a b => b ≤ a + accelStep

theorem gradual_concat [Add R] [LE R] {accelStep : R} {out : List (Output R)} {source : Source}
    {msg : Control R} (h : Gradual accelStep out)
    (hlast : ∀ a ∈ (accelerations out).getLast?, msg.acceleration ≤ a + accelStep) :
    Gradual accelStep (out ++ [.control source msg]) := by
  rw [Gradual, accelerations, List.map_append, List.isChain_append]
  refine ⟨h, .singleton _, ?_⟩
  intro a ha b hb
  obtain rfl : msg.acceleration = b := Option.some.inj hb
  exact hlast a ha

variable [Field R] [LinearOrder R]

/-- From `lastAccel` the plugin cannot jump above `a`, whatever it would like to do. -/
structure Limits (c : PidParams R) (lastAccel a : R) : Prop where
  raise : lastAccel ≤ a ∨ c.maxAccel ≤ a + c.accelStep
  keep : lastAccel ≤ a + c.accelStep
  lower : lastAccel - c.decelStep ≤ a + c.accelStep
  floor : c.maxDecel ≤ a + c.accelStep

theorem limits_iff {c : PidParams R} {lastAccel a : R} :
    Limits c lastAccel a ↔
      (lastAccel ≤ a ∨ c.maxAccel ≤ a + c.accelStep) ∧
        lastAccel ≤ a + c.accelStep ∧ lastAccel - c.decelStep ≤ a + c.accelStep ∧
        c.maxDecel ≤ a + c.accelStep :=
  ⟨fun h => ⟨h.raise, h.keep, h.lower, h.floor⟩, fun h => ⟨h.1, h.2.1, h.2.2.1, h.2.2.2⟩⟩

instance (c : PidParams R) (lastAccel a : R) : Decidable (Limits c lastAccel a) :=
  decidable_of_iff _ limits_iff.symm

/-- What a tick publishes stays within a step above `a`. -/
def Continues (c : ControllerConfig R) (a : R) (s : ManagerState R (Plugin R)) (e : Event R) : Prop :=
  e.callback = .controlTimer →
    if Driving s then
      if s.localPath = none ∨ s.odom = none then 0 ≤ a + c.pid.accelStep
      else ∀ p ∈ pids s.plugins, Limits c.pid p.lastAccel a
    else -3 ≤ a + c.pid.accelStep

instance (c : ControllerConfig R) (a : R) (s : ManagerState R (Plugin R)) (e : Event R) :
    Decidable (Continues c a s e) := inferInstanceAs (Decidable (_ → ite _ _ _))

variable [IsStrictOrderedRing R]

/-- The limits are exact: they hold when every desired acceleration, the infinite ones and NaN
included, leads to a value within a step above `a`. -/
theorem approach_le_iff {c : PidParams R} {lastAccel a : R} :
    (∀ desired, Pid.approach c lastAccel desired ≤ a + c.accelStep) ↔ Limits c lastAccel a := by
  refine ⟨?_, ?_⟩
  · intro h
    have hraise := min_le_iff.mp (h .posInf)
    have hlower := max_le_iff.mp (h .negInf)
    exact ⟨hraise.imp_left (add_le_add_iff_right c.accelStep).mp, h .nan, hlower.1, hlower.2⟩
  · intro h desired
    have hraise : min (lastAccel + c.accelStep) c.maxAccel ≤ a + c.accelStep :=
      min_le_iff.mpr (h.raise.imp_left (add_le_add_left · c.accelStep))
    cases desired with
    | posInf => exact hraise
    | negInf => exact max_le h.lower h.floor
    | nan => exact h.keep
    | finite desired =>
        rw [Pid.approach]
        rcases lt_trichotomy desired lastAccel with hlt | heq | hgt
        · rw [if_neg (lt_asymm hlt), if_pos hlt]
          exact max_le (max_le h.lower (hlt.le.trans h.keep)) h.floor
        · rw [heq, if_neg (lt_irrefl lastAccel), if_neg (lt_irrefl lastAccel)]
          exact h.keep
        · rw [if_pos hgt]
          exact (min_le_min_right c.maxAccel (min_le_left _ _)).trans hraise

/-- A control tick that continues from the last command publishes no jump. -/
theorem runStep_gradual [Sqrt R] (c : ControllerConfig R) {s : ManagerState R (Plugin R)} {now : R}
    {out : List (Output R)} (hone : ∃ p, pids s.plugins = [p]) (hout : Gradual c.pid.accelStep out)
    (hcont : ∀ a ∈ (accelerations out).getLast?, Continues c a s ⟨now, .controlTimer⟩) :
    Gradual c.pid.accelStep (out ++ (runStep c.manager s now).outputs) := by
  obtain ⟨p, hone⟩ := hone
  have hcont' := fun a ha => hcont a ha rfl
  by_cases hd : Driving s
  · simp only [if_pos hd] at hcont'
    by_cases hidle : s.localPath = none ∨ s.odom = none
    · simp only [if_pos hidle] at hcont'
      obtain ⟨ps, control, hrun, -, hacc⟩ := driving_idle c now hd hidle hone
      rw [hrun]
      exact gradual_concat hout (hacc ▸ hcont')
    · simp only [if_neg hidle, hone, List.mem_singleton, forall_eq] at hcont'
      push Not at hidle
      obtain ⟨path, hpath⟩ := Option.ne_none_iff_exists'.mp hidle.1
      obtain ⟨odom, hodom⟩ := Option.ne_none_iff_exists'.mp hidle.2
      by_cases hnil : path.points = []
      · rw [driving_empty c now hd hpath hodom hnil hone, Reply.halt_outputs, List.append_nil]
        exact hout
      · obtain ⟨ps, control, hrun, -, hacc⟩ := driving_drive c now hd hpath hodom hnil hone
        rw [hrun]
        refine gradual_concat hout fun a ha => ?_
        rw [hacc]
        exact approach_le_iff.mpr (hcont' a ha) _
  · simp only [if_neg hd] at hcont'
    rw [runStep_brake c.manager now hd]
    exact gradual_concat hout hcont'

theorem step_gradual [Sqrt R] (c : ControllerConfig R) (out : List (Output R))
    (s : ManagerState R (Plugin R)) (e : Event R) (hone : ∃ p, pids s.plugins = [p])
    (hout : Gradual c.pid.accelStep out)
    (hcont : ∀ a ∈ (accelerations out).getLast?, Continues c a s e) :
    Gradual c.pid.accelStep (out ++ (step c.manager s e).outputs) := by
  obtain ⟨now, callback⟩ := e
  have hquiet : Gradual c.pid.accelStep (out ++ []) := (List.append_nil out).symm ▸ hout
  cases callback with
  | controlTimer => exact runStep_gradual c hone hout hcont
  | shouldPublishControl data => exact hquiet
  | vehicleFlag flag => exact hquiet
  | localPath msg => exact hquiet
  | odom msg => exact hquiet
  | flagCheckTimer => exact hquiet

/-- **Gradual acceleration.**  If every control tick continues from the command before it, the
accelerations that a run publishes rise by at most one step at a time. -/
theorem commands_gradual [Sqrt R] (c : ControllerConfig R) (hone : ∃ p, pids c.plugins = [p])
    (es : List (Event R))
    (hcont : (managerNode c.manager).EachStepAfter (init c.manager) es fun out s e =>
      ∀ a ∈ (accelerations out).getLast?, Continues c a s e) :
    Gradual c.pid.accelStep ((managerNode c.manager).spin (init c.manager) es).outputs :=
  (managerNode c.manager).spin_outputs_induct (I := fun s => ∃ p, pids s.plugins = [p]) hone
    (fun s e h _ => step_one c s e h) .nil (fun out s e => step_gradual c out s e) hcont

end

/-- The vehicle stands on a path with a target speed of ten. -/
def standingOnPath : List (Event ℚ) :=
  [⟨1, .odom standingOdom⟩, ⟨1, .localPath ⟨⟨1, "map"⟩, [⟨⟨0, 0, 0⟩, 10⟩]⟩⟩]

/-- Two ticks under a green flag. -/
def driveOff : List (Event ℚ) :=
  standingOnPath ++ [⟨1, .vehicleFlag GREEN⟩, ⟨1, .controlTimer⟩, ⟨2, .controlTimer⟩]

theorem commands_gradual_driveOff :
    Gradual (1 / 10) ((managerNode bothPlugins.manager).spin (init bothPlugins.manager) driveOff).outputs :=
  commands_gradual bothPlugins ⟨Pid.setup 0, rfl⟩ driveOff (by decide +kernel)

/-- The first tick finds the flag still red, the second one green. -/
theorem commands_jump :
    ¬ ∀ (c : ControllerConfig ℚ) es, (∃ p, pids c.plugins = [p]) → 0 ≤ c.pid.accelStep →
      Gradual c.pid.accelStep ((managerNode c.manager).spin (init c.manager) es).outputs := by
  intro h
  have hjump := h bothPlugins
    (standingOnPath ++ [⟨1, .controlTimer⟩, ⟨2, .vehicleFlag GREEN⟩, ⟨2, .controlTimer⟩])
    ⟨Pid.setup 0, rfl⟩ (by decide +kernel)
  have hcommands : accelerations ((managerNode bothPlugins.manager).spin (init bothPlugins.manager)
      (standingOnPath ++ [⟨1, .controlTimer⟩, ⟨2, .vehicleFlag GREEN⟩, ⟨2, .controlTimer⟩])).outputs =
      [-3, 1 / 10] := by
    decide +kernel
  rw [Gradual, hcommands] at hjump
  exact absurd (List.isChain_pair.mp hjump) (by decide +kernel)

end HitchOpen.SimpleControl
