import HitchOpen.KeyboardController.KeyboardNode

/-!
# What the keyboard node commands

Two properties of the published commands, each with the exact condition under which a run keeps it.

* Throttle is asked for only under a green flag and never together with the brake.  Pressing `8`
  checks the flag, but a red or black flag that arrives later leaves the throttle as it is.
* Every command stays within the limits of the actuators.  The keys `4` and `6` clamp the steering
  against the bound that they move away from, so that only the presses made near the other bound
  leave the range.
-/

namespace HitchOpen.KeyboardController

open HitchOpen.EventMachine HitchOpen.Messages HitchOpen.Runtime HitchOpen.VehicleFlag

/-! ### One lemma per handler -/

theorem whenGreen_cases (s : State) (act : State → State) :
    (isGreen s.vehicleFlag = true ∧ whenGreen s act = .done (act s) []) ∨
    (whenGreen s act).state = s ∧ (whenGreen s act).outputs = [] := by
  rw [whenGreen]
  by_cases hg : isGreen s.vehicleFlag = true
  · exact .inl ⟨hg, if_pos hg⟩
  · right
    rw [if_neg hg]
    split <;> exact ⟨rfl, rfl⟩

theorem vehicleFlagCallback_state (s : State) (flag : UInt8) (now : ℚ) :
    (vehicleFlagCallback s flag now).state = { s with vehicleFlag := flag, lastFlagTime := now } := by
  rw [vehicleFlagCallback]
  dsimp only
  split
  · split <;> rfl
  · rfl

/-- The flag and the pedals are left alone. -/
structure SamePedals (s s' : State) : Prop where
  throttle : s'.throttle = s.throttle
  brake : s'.brake = s.brake
  vehicleFlag : s'.vehicleFlag = s.vehicleFlag

/-- All the attributes from which a command is made are left alone. -/
structure SameActuators (s s' : State) : Prop extends SamePedals s s' where
  steering : s'.steering = s.steering
  currentGear : s'.currentGear = s.currentGear

theorem shiftUp_samePedals (s : State) : SamePedals s (shiftUp s) := by
  rw [shiftUp]
  split <;> exact ⟨rfl, rfl, rfl⟩

theorem shiftDown_samePedals (s : State) : SamePedals s (shiftDown s) := by
  rw [shiftDown]
  split <;> exact ⟨rfl, rfl, rfl⟩

theorem recordWaypoint_sameActuators (s : State) : SameActuators s (recordWaypoint s) := by
  rw [recordWaypoint]
  split <;> exact ⟨⟨rfl, rfl, rfl⟩, rfl, rfl⟩

theorem gpsCallback_sameActuators (s : State) (msg : NavSatFix ℚ) :
    SameActuators s (gpsCallback s msg).state := by
  rw [gpsCallback]
  dsimp only
  split
  · have h := recordWaypoint_sameActuators { s with latestGps := some msg }
    exact ⟨⟨h.throttle, h.brake, h.vehicleFlag⟩, h.steering, h.currentGear⟩
  · exact ⟨⟨rfl, rfl, rfl⟩, rfl, rfl⟩

theorem whenGreen_outputs (s : State) (act : State → State) : (whenGreen s act).outputs = [] := by
  rcases whenGreen_cases s act with ⟨-, hr⟩ | ⟨-, hr⟩
  · rw [hr]
    rfl
  · exact hr

theorem onPress_outputs (c : Config) (s : State) (key : Key) (msg : VehicleControlData) :
    .control msg ∉ (onPress c s key).outputs := by
  unfold onPress
  split
  · rw [whenGreen_outputs]
    exact List.not_mem_nil
  · exact List.not_mem_nil
  · exact List.not_mem_nil
  · exact List.not_mem_nil
  · simp only [Reply.done_outputs, saveWaypoints]
    split_ifs <;> simp
  · exact List.not_mem_nil
  · exact List.not_mem_nil
  · rw [whenGreen_outputs]
    exact List.not_mem_nil
  · rw [whenGreen_outputs]
    exact List.not_mem_nil
  · exact List.not_mem_nil
  · exact List.not_mem_nil

theorem onRelease_outputs (s : State) (key : Key) : (onRelease s key).outputs = [] := by
  unfold onRelease
  split <;> rfl

theorem vehicleFlagCallback_outputs (s : State) (flag : UInt8) (now : ℚ) :
    (vehicleFlagCallback s flag now).outputs = [] := by
  rw [vehicleFlagCallback]
  dsimp only
  split
  · split <;> rfl
  · rfl

theorem gpsCallback_outputs (s : State) (msg : NavSatFix ℚ) : (gpsCallback s msg).outputs = [] := by
  rw [gpsCallback]
  dsimp only
  split <;> rfl

theorem checkFlagTimeout_outputs (c : Config) (s : State) (now : ℚ) :
    (checkFlagTimeout c s now).outputs = [] := by
  rw [checkFlagTimeout]
  split <;> rfl

/-- Only the timer publishes commands. -/
theorem eq_controlMessage_of_mem {c : Config} {s : State} {e : Event} {msg : VehicleControlData}
    (h : .control msg ∈ (step c s e).outputs) :
    ∃ now, e = .controlTick now ∧ msg = controlMessage s now := by
  cases e with
  | press key => exact absurd h (onPress_outputs c s key msg)
  | release key =>
      rw [step, onRelease_outputs] at h
      cases h
  | vehicleFlag flag now =>
      rw [step, vehicleFlagCallback_outputs] at h
      cases h
  | gps fix =>
      rw [step, gpsCallback_outputs] at h
      cases h
  | flagCheck now =>
      rw [step, checkFlagTimeout_outputs] at h
      cases h
  | controlTick now =>
      refine ⟨now, rfl, ?_⟩
      simpa [step, timerCallback] using h

/-! ### The limits of the actuators -/

/-- The ranges that the attributes are meant to stay in. -/
structure WithinLimits (s : State) : Prop where
  throttle : 0 ≤ s.throttle ∧ s.throttle ≤ 3 / 10
  brake : 0 ≤ s.brake ∧ s.brake ≤ 1
  steering : -maxSteering ≤ s.steering ∧ s.steering ≤ maxSteering
  currentGear : 0 ≤ s.currentGear ∧ s.currentGear ≤ 6

/-- The same ranges for a published command. -/
structure CommandWithinLimits (msg : VehicleControlData) : Prop where
  accelerationPct : 0 ≤ msg.accelerationPct ∧ msg.accelerationPct ≤ 3 / 10
  brakingPct : 0 ≤ msg.brakingPct ∧ msg.brakingPct ≤ 1
  targetWheelAngle : -maxSteering ≤ msg.targetWheelAngle ∧ msg.targetWheelAngle ≤ maxSteering
  targetGear : 0 ≤ msg.targetGear ∧ msg.targetGear ≤ 6

theorem WithinLimits.command {s : State} (h : WithinLimits s) (now : ℚ) :
    CommandWithinLimits (controlMessage s now) where
  accelerationPct := h.throttle
  brakingPct := by
    simp only [controlMessage]
    split
    · norm_num
    · exact h.brake
  targetWheelAngle := h.steering
  targetGear := h.currentGear

theorem WithinLimits.of_sameActuators {s s' : State} (h : WithinLimits s) (hs : SameActuators s s') :
    WithinLimits s' where
  throttle := hs.throttle ▸ h.throttle
  brake := hs.brake ▸ h.brake
  steering := hs.steering ▸ h.steering
  currentGear := hs.currentGear ▸ h.currentGear

/-- A steering key is pressed with room for one more step in its direction. -/
def SteersWithRoom (s : State) : Event → Prop
  | .press (.char (some '4')) => -maxSteering + steeringStep ≤ s.steering
  | .press (.char (some '6')) => s.steering ≤ maxSteering - steeringStep
  | _ => True

theorem shiftUp_withinLimits {s : State} (h : WithinLimits s) : WithinLimits (shiftUp s) := by
  rw [shiftUp]
  split
  · exact ⟨h.throttle, h.brake, h.steering, by have := h.currentGear; dsimp only; omega⟩
  · exact h

theorem shiftDown_withinLimits {s : State} (h : WithinLimits s) : WithinLimits (shiftDown s) := by
  rw [shiftDown]
  split
  · exact ⟨h.throttle, h.brake, h.steering, by have := h.currentGear; dsimp only; omega⟩
  · exact h

/-- A press of a key that works under green flags only keeps what its action keeps. -/
theorem whenGreen_withinLimits {s : State} {act : State → State} (h : WithinLimits s)
    (hact : WithinLimits (act s)) : WithinLimits (whenGreen s act).state := by
  rcases whenGreen_cases s act with ⟨-, hr⟩ | ⟨hr, -⟩
  · rw [hr]
    exact hact
  · rw [hr]
    exact h

/-- Key `4`: the steering shrinks and is clamped from above, so that only its own room bounds it from
below. -/
theorem steerDown_withinLimits_iff {s : State} (h : WithinLimits s) :
    WithinLimits { s with steering := min maxSteering (s.steering - steeringStep) } ↔
      -maxSteering + steeringStep ≤ s.steering := by
  refine ⟨?_, ?_⟩
  · intro h'
    have hlow : -maxSteering ≤ min maxSteering (s.steering - steeringStep) := h'.steering.1
    have hle := hlow.trans (min_le_right maxSteering (s.steering - steeringStep))
    linarith
  · intro hroom
    refine ⟨h.throttle, h.brake, ⟨le_min ?_ ?_, min_le_left _ _⟩, h.currentGear⟩
    · norm_num [maxSteering]
    · linarith

/-- Key `6`: the steering grows and is clamped from below. -/
theorem steerUp_withinLimits_iff {s : State} (h : WithinLimits s) :
    WithinLimits { s with steering := max (-maxSteering) (s.steering + steeringStep) } ↔
      s.steering ≤ maxSteering - steeringStep := by
  refine ⟨?_, ?_⟩
  · intro h'
    have hhigh : max (-maxSteering) (s.steering + steeringStep) ≤ maxSteering := h'.steering.2
    have hle := (le_max_right (-maxSteering) (s.steering + steeringStep)).trans hhigh
    linarith
  · intro hroom
    refine ⟨h.throttle, h.brake, ⟨le_max_left _ _, max_le ?_ ?_⟩, h.currentGear⟩
    · norm_num [maxSteering]
    · linarith

/-- Key `8`: the throttle only grows and is clamped from above. -/
theorem accelerate_withinLimits {s : State} (h : WithinLimits s) :
    WithinLimits { s with throttle := min (3 / 10) (s.throttle + throttleStep), brake := 0 } where
  throttle := by
    have hpos := h.throttle.1
    refine ⟨le_min (by norm_num) ?_, min_le_left _ _⟩
    rw [throttleStep]
    linarith
  brake := by norm_num
  steering := h.steering
  currentGear := h.currentGear

/-- Key `5`: so does the brake. -/
theorem brake_withinLimits {s : State} (h : WithinLimits s) :
    WithinLimits { s with brake := min 1 (s.brake + brakeStep), throttle := 0 } where
  throttle := by norm_num
  brake := by
    have hpos := h.brake.1
    refine ⟨le_min (by norm_num) ?_, min_le_left _ _⟩
    rw [brakeStep]
    linarith
  steering := h.steering
  currentGear := h.currentGear

theorem onPress_withinLimits_iff (c : Config) {s : State} (h : WithinLimits s) (key : Key) :
    WithinLimits (onPress c s key).state ↔ SteersWithRoom s (.press key) := by
  unfold onPress
  split
  · exact iff_of_true (whenGreen_withinLimits h (accelerate_withinLimits h)) trivial
  · exact iff_of_true (brake_withinLimits h) trivial
  · exact steerDown_withinLimits_iff h
  · exact steerUp_withinLimits_iff h
  · exact iff_of_true h trivial
  · exact iff_of_true h trivial
  · -- no other character steers
    refine iff_of_true h ?_
    unfold SteersWithRoom
    split <;> simp_all
  · exact iff_of_true (whenGreen_withinLimits h (shiftUp_withinLimits h)) trivial
  · exact iff_of_true (whenGreen_withinLimits h (shiftDown_withinLimits h)) trivial
  · refine iff_of_true ?_ trivial
    simp only [Reply.done_state]
    split
    · exact h.of_sameActuators (recordWaypoint_sameActuators s)
    · exact h
  · exact iff_of_true h trivial

theorem onRelease_withinLimits {s : State} (h : WithinLimits s) (key : Key) :
    WithinLimits (onRelease s key).state := by
  have hzero : -maxSteering ≤ 0 ∧ (0 : ℚ) ≤ maxSteering := by norm_num [maxSteering]
  unfold onRelease
  split
  · exact ⟨by norm_num, h.brake, h.steering, h.currentGear⟩
  · exact ⟨h.throttle, by norm_num, h.steering, h.currentGear⟩
  · exact ⟨h.throttle, h.brake, hzero, h.currentGear⟩
  · exact ⟨h.throttle, h.brake, hzero, h.currentGear⟩
  · exact h

theorem checkFlagTimeout_withinLimits (c : Config) {s : State} (h : WithinLimits s) (now : ℚ) :
    WithinLimits (checkFlagTimeout c s now).state := by
  have hzero : -maxSteering ≤ 0 ∧ (0 : ℚ) ≤ maxSteering := by norm_num [maxSteering]
  rw [checkFlagTimeout]
  split
  · exact ⟨by norm_num, by norm_num, hzero, h.currentGear⟩
  · exact h

/-- **One step.**  A step from within the limits stays there exactly when it steers with room. -/
theorem step_withinLimits_iff (c : Config) {s : State} (h : WithinLimits s) (e : Event) :
    WithinLimits (step c s e).state ↔ SteersWithRoom s e := by
  cases e with
  | press key => exact onPress_withinLimits_iff c h key
  | release key => exact iff_of_true (onRelease_withinLimits h key) trivial
  | vehicleFlag flag now =>
      refine iff_of_true ?_ trivial
      show WithinLimits (vehicleFlagCallback s flag now).state
      rw [vehicleFlagCallback_state]
      exact ⟨h.throttle, h.brake, h.steering, h.currentGear⟩
  | gps msg => exact iff_of_true (h.of_sameActuators (gpsCallback_sameActuators s msg)) trivial
  | flagCheck now => exact iff_of_true (checkFlagTimeout_withinLimits c h now) trivial
  | controlTick now => exact iff_of_true h trivial

/-- The steering keys never end the node. -/
theorem steersWithRoom_of_stop (c : Config) {s : State} {e : Event}
    (h : (step c s e).stop ≠ none) : SteersWithRoom s e := by
  unfold SteersWithRoom
  split
  · exact absurd rfl h
  · exact absurd rfl h
  · trivial

theorem init_withinLimits {c : Config} (hgear : c.gearDrive = 1) : WithinLimits (init c) where
  throttle := by norm_num [init]
  brake := by norm_num [init]
  steering := by norm_num [init, maxSteering]
  currentGear := by
    show 0 ≤ c.gearDrive ∧ c.gearDrive ≤ 6
    omega

/-- **Actuator limits.**  A run keeps all four attributes, and every command it publishes, within the
limits exactly when each press of a steering key finds room for one more step in its direction. -/
theorem withinLimits_iff_steersWithRoom (c : Config) (hgear : c.gearDrive = 1) (es : List Event) :
    ((keyboardNode c).EachState (init c) es WithinLimits ∧
      (keyboardNode c).EachStep (init c) es fun s e => ∀ msg,
        .control msg ∈ (step c s e).outputs → CommandWithinLimits msg) ↔
    (keyboardNode c).EachStep (init c) es SteersWithRoom := by
  have hinit := init_withinLimits hgear
  have hstates : (keyboardNode c).EachState (init c) es WithinLimits ↔
      (keyboardNode c).EachStep (init c) es SteersWithRoom :=
    (keyboardNode c).eachState_iff_eachStep (I := fun _ => True) trivial (fun _ _ _ _ _ => trivial)
      hinit (fun s e _ h _ => step_withinLimits_iff c h e)
      (fun s e _ _ h => steersWithRoom_of_stop c h)
  refine ⟨?_, ?_⟩
  · intro h
    exact hstates.mp h.1
  · intro h
    have hwithin := hstates.mpr h
    refine ⟨hwithin, ?_⟩
    intro pre e s hpre hrun msg hmsg
    obtain ⟨now, -, rfl⟩ := eq_controlMessage_of_mem hmsg
    exact (hwithin pre s ((List.prefix_append pre [e]).trans hpre) hrun).command now

/-- Eight presses of `4` in a row. -/
def steerLeft : List Event := List.replicate 8 (.press (.char (some '4')))

/-- The node with the defaults of its parameters. -/
def defaults : Config where
  flagTimeout := 2 / 10
  saveWaypointsEnabled := true
  gearDrive := 1
  createdAt := 0

theorem steerLeft_runs : (keyboardNode defaults).runFrom (init defaults) steerLeft =
    some { init defaults with steering := -(16 / 100) } := by decide +kernel

/-- Key `4` is not stopped at `-max_steering`, and the next tick publishes what it has reached. -/
theorem steering_leaves_limits :
    ¬ (keyboardNode defaults).EachState (init defaults) (steerLeft ++ [.controlTick 1])
      WithinLimits ∧
    ¬ (keyboardNode defaults).EachStep (init defaults) (steerLeft ++ [.controlTick 1]) fun s e =>
      ∀ msg, .control msg ∈ (step defaults s e).outputs → CommandWithinLimits msg := by
  refine ⟨?_, ?_⟩
  · intro h
    have hlow := (h steerLeft _ (List.prefix_append _ _) steerLeft_runs).steering.1
    norm_num [maxSteering] at hlow
  · intro h
    have hmsg := h steerLeft (.controlTick 1) _ (List.prefix_refl _) steerLeft_runs
      (controlMessage _ 1) (List.mem_singleton.mpr rfl)
    have hlow := hmsg.targetWheelAngle.1
    norm_num [controlMessage, maxSteering] at hlow

theorem withinLimits_iff_steersWithRoom_defaults :
    defaults.gearDrive = 1 ∧
    (((keyboardNode defaults).EachState (init defaults) steerLeft WithinLimits ∧
      (keyboardNode defaults).EachStep (init defaults) steerLeft fun s e => ∀ msg,
        .control msg ∈ (step defaults s e).outputs → CommandWithinLimits msg) ↔
    (keyboardNode defaults).EachStep (init defaults) steerLeft SteersWithRoom) :=
  ⟨rfl, withinLimits_iff_steersWithRoom defaults rfl steerLeft⟩

/-! ### Throttle and the flag -/

/-- What may be said with `acceleration_pct`. -/
def SafeCommand (flag : UInt8) (msg : VehicleControlData) : Prop :=
  0 < msg.accelerationPct → isGreen flag = true ∧ msg.brakingPct = 0

/-- The same for the state behind a command. -/
def ThrottleGated (s : State) : Prop := 0 < s.throttle → isGreen s.vehicleFlag = true ∧ s.brake = 0

/-- A red or black flag finds the throttle released. -/
def StopsReleased (s : State) : Event → Prop
  | .vehicleFlag flag _ => flag = RED ∨ flag = BLACK → s.throttle = 0
  | _ => True

/-- What the node keeps on any run: the flag is one of the nine, and the throttle is not negative. -/
structure FlagNamed (s : State) : Prop where
  flag : flagToString s.vehicleFlag ≠ none
  throttle : 0 ≤ s.throttle

theorem safeCommand_controlMessage_iff (s : State) (now : ℚ) :
    SafeCommand s.vehicleFlag (controlMessage s now) ↔ ThrottleGated s := by
  unfold SafeCommand ThrottleGated controlMessage
  dsimp only
  refine imp_congr_right fun _ => and_congr_right fun hg => ?_
  have hred : s.vehicleFlag ≠ RED := by
    intro hr
    rw [hr, isGreen_red] at hg
    cases hg
  rw [if_neg hred]

theorem FlagNamed.of_samePedals {s s' : State} (h : FlagNamed s) (hs : SamePedals s s') :
    FlagNamed s' where
  flag := hs.vehicleFlag ▸ h.flag
  throttle := hs.throttle ▸ h.throttle

theorem ThrottleGated.of_samePedals {s s' : State} (h : ThrottleGated s) (hs : SamePedals s s') :
    ThrottleGated s' := by
  rw [ThrottleGated]
  rw [hs.throttle, hs.brake, hs.vehicleFlag]
  exact h

theorem ThrottleGated.of_zero {s : State} (h : s.throttle = 0) : ThrottleGated s := by
  intro hpos
  rw [h] at hpos
  exact absurd hpos (lt_irrefl 0)

/-- What every handler keeps, apart from the one for flag messages. -/
def Gated (s : State) : Prop := FlagNamed s ∧ ThrottleGated s

theorem Gated.of_samePedals {s s' : State} (h : Gated s) (hs : SamePedals s s') : Gated s' :=
  ⟨h.1.of_samePedals hs, h.2.of_samePedals hs⟩

theorem whenGreen_gated {s : State} {act : State → State} (h : Gated s)
    (hact : isGreen s.vehicleFlag = true → Gated (act s)) : Gated (whenGreen s act).state := by
  rcases whenGreen_cases s act with ⟨hg, hr⟩ | ⟨hr, -⟩
  · rw [hr]
    exact hact hg
  · rw [hr]
    exact h

/-- Key `8` checks the flag and releases the brake, key `5` releases the throttle. -/
theorem onPress_gated (c : Config) {s : State} (h : Gated s) (key : Key) :
    Gated (onPress c s key).state := by
  unfold onPress
  split
  · refine whenGreen_gated h fun hg => ⟨⟨h.1.flag, le_min (by norm_num) ?_⟩, fun _ => ⟨hg, rfl⟩⟩
    have hthrottle := h.1.throttle
    rw [throttleStep]
    linarith
  · exact ⟨⟨h.1.flag, le_refl 0⟩, .of_zero rfl⟩
  · exact h.of_samePedals ⟨rfl, rfl, rfl⟩
  · exact h.of_samePedals ⟨rfl, rfl, rfl⟩
  · exact h
  · exact h
  · exact h
  · exact whenGreen_gated h fun _ => h.of_samePedals (shiftUp_samePedals s)
  · exact whenGreen_gated h fun _ => h.of_samePedals (shiftDown_samePedals s)
  · simp only [Reply.done_state]
    split
    · exact h.of_samePedals (recordWaypoint_sameActuators s).toSamePedals
    · exact h
  · exact h

theorem onRelease_gated {s : State} (h : Gated s) (key : Key) : Gated (onRelease s key).state := by
  unfold onRelease
  split
  · exact ⟨⟨h.1.flag, le_refl 0⟩, .of_zero rfl⟩
  · exact ⟨⟨h.1.flag, h.1.throttle⟩, fun hpos => ⟨(h.2 hpos).1, rfl⟩⟩
  · exact h.of_samePedals ⟨rfl, rfl, rfl⟩
  · exact h.of_samePedals ⟨rfl, rfl, rfl⟩
  · exact h

theorem checkFlagTimeout_gated (c : Config) {s : State} (h : Gated s) (now : ℚ) :
    Gated (checkFlagTimeout c s now).state := by
  rw [checkFlagTimeout]
  split
  · exact ⟨⟨flagToString_red, le_refl 0⟩, .of_zero rfl⟩
  · exact h

/-- A new flag that has no name ends the node, so that the node never works under one. -/
theorem vehicleFlagCallback_named {s : State} (h : FlagNamed s) {flag : UInt8} {now : ℚ}
    (hd : (vehicleFlagCallback s flag now).stop = none) : flagToString flag ≠ none := by
  intro hnone
  unfold vehicleFlagCallback at hd
  dsimp only at hd
  split at hd
  · rw [hnone] at hd
    cases hd
  · rename_i heq
    push Not at heq
    exact h.flag (heq ▸ hnone)

/-- A flag message keeps the throttle gated exactly when the flag is green or the throttle is
released. -/
theorem throttleGated_flag_iff {s : State} (h : Gated s) {flag : UInt8}
    (hname : flagToString flag ≠ none) (now : ℚ) :
    ThrottleGated { s with vehicleFlag := flag, lastFlagTime := now } ↔
      StopsReleased s (.vehicleFlag flag now) := by
  unfold ThrottleGated StopsReleased
  dsimp only
  refine ⟨?_, ?_⟩
  · intro hgated hflag
    by_contra hne
    have hpos : 0 < s.throttle := lt_of_le_of_ne h.1.throttle (Ne.symm hne)
    have hgreen := (hgated hpos).1
    rcases hflag with rfl | rfl
    · rw [isGreen_red] at hgreen
      cases hgreen
    · rw [isGreen_black] at hgreen
      cases hgreen
  · intro hstop hpos
    refine ⟨?_, (h.2 hpos).2⟩
    by_contra hng
    rw [Bool.not_eq_true] at hng
    obtain ⟨name, hsome⟩ := Option.ne_none_iff_exists'.mp hname
    have hzero := hstop (flagToString_of_not_green hng hsome)
    linarith

/-- **One step.**  Every step keeps the flag named, and it keeps the throttle gated exactly when no
stop flag finds the throttle pressed. -/
theorem step_gated_iff (c : Config) {s : State} (h : Gated s) {e : Event}
    (hd : (step c s e).stop = none) :
    FlagNamed (step c s e).state ∧ (ThrottleGated (step c s e).state ↔ StopsReleased s e) := by
  have hkeep : ∀ {s' : State} {Q : Prop}, Gated s' → Q → FlagNamed s' ∧ (ThrottleGated s' ↔ Q) :=
    fun hs' hQ => ⟨hs'.1, iff_of_true hs'.2 hQ⟩
  cases e with
  | press key => exact hkeep (onPress_gated c h key) trivial
  | release key => exact hkeep (onRelease_gated h key) trivial
  | vehicleFlag flag now =>
      have hname := vehicleFlagCallback_named h.1 hd
      show FlagNamed (vehicleFlagCallback s flag now).state ∧
        (ThrottleGated (vehicleFlagCallback s flag now).state ↔ _)
      rw [vehicleFlagCallback_state]
      exact ⟨⟨hname, h.1.throttle⟩, throttleGated_flag_iff h hname now⟩
  | gps msg =>
      exact hkeep (h.of_samePedals (gpsCallback_sameActuators s msg).toSamePedals) trivial
  | flagCheck now => exact hkeep (checkFlagTimeout_gated c h now) trivial
  | controlTick now => exact hkeep h trivial

theorem init_gated (c : Config) : Gated (init c) :=
  ⟨⟨flagToString_red, le_refl 0⟩, .of_zero rfl⟩

/-- A red or black flag has a name and does not end the node. -/
theorem stopsReleased_of_stop (c : Config) {s : State} {e : Event}
    (h : (step c s e).stop ≠ none) : StopsReleased s e := by
  cases e with
  | vehicleFlag flag now =>
      intro hflag
      exfalso
      apply h
      have hname : flagToString flag ≠ none := by
        rw [Ne, flagToString_eq_none_iff]
        tauto
      obtain ⟨name, hsome⟩ := Option.ne_none_iff_exists'.mp hname
      simp only [step, vehicleFlagCallback, hsome]
      split <;> rfl
  | _ => trivial

/-- **Throttle only under green.**  In every state of a run a command that asks for throttle would be
published under a green flag and without brake, exactly when no red or black flag of the run finds
the throttle pressed. -/
theorem safeCommand_iff_stopsReleased (c : Config) (es : List Event) :
    ((keyboardNode c).EachState (init c) es fun s => ∀ now msg,
      .control msg ∈ (step c s (.controlTick now)).outputs → SafeCommand s.vehicleFlag msg) ↔
    (keyboardNode c).EachStep (init c) es StopsReleased := by
  rw [← (keyboardNode c).eachState_iff_eachStep (I := FlagNamed) (P := ThrottleGated)
    (init_gated c).1 (fun s e hn hg hd => (step_gated_iff c ⟨hn, hg⟩ hd).1) (init_gated c).2
    (fun s e hn hg hd => (step_gated_iff c ⟨hn, hg⟩ hd).2)
    (fun s e _ _ h => stopsReleased_of_stop c h)]
  have hstate : ∀ s : State, (∀ now msg, .control msg ∈ (step c s (.controlTick now)).outputs →
      SafeCommand s.vehicleFlag msg) ↔ ThrottleGated s := by
    intro s
    refine ⟨?_, ?_⟩
    · intro h
      exact (safeCommand_controlMessage_iff s 0).mp (h 0 _ (List.mem_singleton.mpr rfl))
    · intro h now msg hmsg
      obtain ⟨_, -, rfl⟩ := eq_controlMessage_of_mem hmsg
      exact (safeCommand_controlMessage_iff s _).mpr h
  simp only [hstate]

/-- A green flag, one press of `8`, and a black flag while the key is held. -/
def blackWhileHeld : List Event :=
  [.vehicleFlag GREEN 1, .press (.char (some '8')), .vehicleFlag BLACK 2]

/-- The throttle stays pressed and the brake released. -/
theorem throttle_under_black : ∃ s msg,
    (keyboardNode defaults).runFrom (init defaults) blackWhileHeld = some s ∧
    .control msg ∈ (step defaults s (.controlTick 2)).outputs ∧
    s.vehicleFlag = BLACK ∧ msg.accelerationPct = 1 / 10 ∧ msg.brakingPct = 0 ∧
    ¬ SafeCommand s.vehicleFlag msg := by
  refine ⟨_, _, rfl, List.mem_singleton.mpr rfl, rfl, ?_, rfl, ?_⟩
  · decide +kernel
  · intro h
    exact absurd (h (by decide +kernel)).1 (by decide)

end HitchOpen.KeyboardController
