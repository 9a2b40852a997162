import HitchOpen.AutowareLgsvlInterface.InterfaceNode
import HitchOpen.Library.TopicChain
import HitchOpen.SimpleControl.FlagAgreement

/-!
# From the flag to the throttle

The timer publishes the flag, the manager commands an acceleration, and the interface turns it into
throttle and gear.  Two topics connect the three nodes; on both of them messages are delayed and may be
lost, and the steps of the nodes interleave in any order.

Nothing between the operator and the simulator makes up a command to drive: `drives_mayDrive` traces every
throttle that reaches the simulator back to a control tick of the manager under a fresh `GREEN`, and this
flag to a tick of the timer that left a competition running.
-/

namespace HitchOpen.AutowareLgsvlInterface

open HitchOpen.EventMachine HitchOpen.EventMachine.Link HitchOpen.Messages HitchOpen.Runtime
open HitchOpen.SimpleControl (flagTopic JointEvent LastFlag InTime ManagerState brakeControl)
open HitchOpen.VehicleFlag

section Stack

variable {R π : Type*} [Field R] [LinearOrder R]

/-- The simulator is asked for throttle or for a gear to drive in. -/
def Drives (i : Config R) (out : VehicleControlData R) : Prop :=
  out.accelerationPct ≠ 0 ∨ out.targetGear ≠ i.gearNeutral

instance (i : Config R) (out : VehicleControlData R) : Decidable (Drives i out) :=
  inferInstanceAs (Decidable (_ ∨ _))

theorem acceleration_of_drives {i : Config R} {s : State R} {stamp : R} {msg : Control R}
    (h : Drives i (onControlMsg i s stamp msg)) : 0 ≤ msg.acceleration := by
  by_contra hneg
  have hneg : msg.acceleration < 0 := not_le.mp hneg
  rcases h with h | h
  · exact h (accelerationPct_of_neg i hneg)
  · apply h
    show targetGear i s msg.acceleration = i.gearNeutral
    rw [targetGear, if_neg (not_lt.mpr hneg.le), ite_self]

variable [Sqrt R]

/-! ### The three nodes -/

/-- What reaches the interface by other ways than the commands of the manager. -/
abbrev OwnEvent (R : Type*) := {e : Event R // ∀ stamp msg, e ≠ .control stamp msg}

abbrev StackEvent (R : Type*) := LinkEvent (JointEvent R) Unit (OwnEvent R)

/-- The topic `control_cmd`, with the manager and the timer at its publishing end.  The manager leaves the
stamp of a command as it is constructed. -/
def commandTopic (timer : CompetitionTimer.Config R) (c : SimpleControl.Config R π) (i : Config R) :
    Link (LinkState (CompetitionTimer.State R) (ManagerState R π) UInt8) (JointEvent R)
      (SimpleControl.Output R) Empty (State R) (Event R) (VehicleControlData R) Empty (Control R) Unit
      (OwnEvent R) where
  publisher := (flagTopic timer c).machine
  subscriber := interfaceNode i
  sent
    | .control _ msg => some msg
  receive _ msg := .control 0 msg
  own := Subtype.val

/-- A tick of the timer has published `GREEN` in the run `js`, and left a competition running. -/
def Started (timer : CompetitionTimer.Config R) (js : List (JointEvent R)) : Prop :=
  ∃ pre e t, pre ++ [.publisher e] <+: js ∧
    (CompetitionTimer.timerNode timer).runFrom (CompetitionTimer.init timer) (publisherEvents pre) = some t ∧
    .flag GREEN ∈ ((CompetitionTimer.timerNode timer).step t e).outputs ∧
    ((CompetitionTimer.timerNode timer).step t e).state.competitionActive = true

/-- What the manager needs to drive after the run `js`. -/
structure MayDrive (timer : CompetitionTimer.Config R) (c : SimpleControl.Config R π)
    (js : List (JointEvent R)) (s : ManagerState R π) : Prop where
  reached : ((flagTopic timer c).run (flagTopic timer c).start js).subscriber = some s
  publishing : s.shouldPublishControl = true
  fresh : ∃ m after, LastFlag ((flagTopic timer c).heard (flagTopic timer c).start js) m GREEN after ∧
    InTime c m after
  started : Started timer js

/-! ### Back along the chain -/

/-- A `GREEN` that the manager has heard was published by the timer in the same run. -/
theorem started_of_heard {timer : CompetitionTimer.Config R} {c : SimpleControl.Config R π}
    {js : List (JointEvent R)} {m : R} {after : List (SimpleControl.Event R)}
    (h : LastFlag ((flagTopic timer c).heard (flagTopic timer c).start js) m GREEN after) :
    Started timer js := by
  obtain ⟨before, hsplit⟩ := h.split
  have hmem : (⟨m, .vehicleFlag GREEN⟩ : SimpleControl.Event R) ∈
      (flagTopic timer c).heard (flagTopic timer c).start js := by
    rw [hsplit]
    exact List.mem_append_right _ List.mem_cons_self
  obtain ⟨e, he⟩ | ⟨k, flag, he, hsent⟩ := heard_sentIn hmem
  · -- no flag reaches the manager by other ways
    exact absurd (congrArg SimpleControl.Event.callback he).symm (e.2 GREEN)
  · cases he
    obtain ⟨pre, e, t, out, hpre, hrun, hout, hflag⟩ := hsent.exists_step
    have hpublished : out = .flag GREEN := by
      cases out with
      | flag f =>
          obtain rfl : f = GREEN := Option.some.inj hflag
          rfl
      | _ => cases hflag
    rw [hpublished] at hout
    obtain ⟨rfl, hparam⟩ := CompetitionTimer.flag_of_step hout
    exact ⟨pre, .flagTick, t, hpre, hrun, hout,
      CompetitionTimer.publishVehicleFlag_green timer (hparam ▸ by decide)⟩

/-- A command other than the brake is published under a fresh flag. -/
theorem mayDrive_of_command {timer : CompetitionTimer.Config R} {c : SimpleControl.Config R π}
    {js : List (JointEvent R)} {e : JointEvent R} {source : SimpleControl.Source} {msg : Control R}
    (h : .control source msg ∈
      ((flagTopic timer c).machine.step ((flagTopic timer c).run (flagTopic timer c).start js) e).outputs)
    (hmsg : msg ≠ brakeControl) : ∃ s, MayDrive timer c js s := by
  obtain ⟨s, d, hs, -, hout⟩ := mem_machine_outputs h
  have hreached : (SimpleControl.managerNode c).runFrom (SimpleControl.init c)
      ((flagTopic timer c).heard (flagTopic timer c).start js) = some s := by
    rw [subscriber_eq] at hs
    exact hs
  obtain ⟨-, hbrake⟩ | ⟨hpublishing, hgreen⟩ := SimpleControl.brake_or_green hout
  · exact absurd hbrake hmsg
  · obtain ⟨after, hlast, htime⟩ := SimpleControl.run_fresh hreached hgreen
    exact ⟨s, hs, hpublishing, ⟨s.lastFlagTime, after, hlast, htime⟩, started_of_heard hlast⟩

variable [IsStrictOrderedRing R]

/-- **No throttle without a flag.**  In every run of the three nodes, a message that asks the simulator for
throttle or a gear is what the interface makes of a command that the manager published earlier in the
run.  At the tick that published it, publishing was enabled, the last flag it had received was `GREEN`,
no check since had found it stale, and the timer had published this flag in a tick that left a competition
running. -/
theorem drives_mayDrive (timer : CompetitionTimer.Config R) (c : SimpleControl.Config R π) (i : Config R)
    (es : List (StackEvent R)) (e : StackEvent R) (out : VehicleControlData R)
    (hout : out ∈ ((commandTopic timer c i).machine.step
      ((commandTopic timer c i).run (commandTopic timer c i).start es) e).outputs)
    (hdrives : Drives i out) :
    ∃ q pre tick source msg s,
      ((commandTopic timer c i).run (commandTopic timer c i).start es).subscriber = some q ∧
      out = onControlMsg i q 0 msg ∧ pre ++ [.publisher tick] <+: es ∧
      .control source msg ∈ ((flagTopic timer c).machine.step
        ((flagTopic timer c).run (flagTopic timer c).start (publisherEvents pre)) tick).outputs ∧
      MayDrive timer c (publisherEvents pre) s := by
  obtain ⟨q, d, hrun, hd, hq⟩ := mem_machine_outputs hout
  cases d with
  | can engineRpm => exact absurd hq List.not_mem_nil
  | control stamp msg =>
      obtain rfl := List.mem_singleton.mp hq
      have hacc := acceleration_of_drives hdrives
      have hmsg : msg ≠ brakeControl := by
        rintro rfl
        have hbrake : (0 : R) ≤ -3 := hacc
        linarith
      cases e with
      | publisher e => exact absurd hd List.not_mem_nil
      | lose => exact absurd hd List.not_mem_nil
      | subscriber own =>
          -- no command reaches the interface by other ways
          exact absurd (List.mem_singleton.mp hd).symm (own.2 stamp msg)
      | deliver k =>
          obtain ⟨m, heq, hsent⟩ := sentIn_of_deliver hd
          cases heq
          obtain ⟨pre, tick, p, command, hpre, hp, hcommand, hcontrol⟩ := hsent.exists_step
          obtain rfl := Option.some.inj ((machine_runFrom _ _).symm.trans hp)
          cases command with
          | control source msg' =>
              obtain rfl : msg' = msg := Option.some.inj hcontrol
              obtain ⟨s, hs⟩ := mayDrive_of_command hcommand hmsg
              exact ⟨q, pre, tick, source, msg', s, hrun, rfl, hpre, hcommand, hs⟩

end Stack

/-- The operator sets the green flag, and half a second after it has arrived the manager commands full
throttle. -/
def greenLap : List (StackEvent ℚ) :=
  [.publisher (.publisher (.setVehicleFlag "green")), .publisher (.publisher .flagTick),
    .publisher (.deliver 1), .publisher (.subscriber ⟨⟨3 / 2, .controlTimer⟩, by simp⟩)]

/-- The command arrives, and the interface asks for a third of the throttle in the first gear. -/
theorem greenLap_mayDrive :
    ∃ q pre tick source msg s,
      ((commandTopic (CompetitionTimer.oval 1) (SimpleControl.floorIt 1) declared).run
        (commandTopic (CompetitionTimer.oval 1) (SimpleControl.floorIt 1) declared).start
        greenLap).subscriber = some q ∧
      ⟨0, 1 / 3, 0, 0, 1⟩ = onControlMsg declared q 0 msg ∧ pre ++ [.publisher tick] <+: greenLap ∧
      .control source msg ∈
        ((flagTopic (CompetitionTimer.oval 1) (SimpleControl.floorIt 1)).machine.step
          ((flagTopic (CompetitionTimer.oval 1) (SimpleControl.floorIt 1)).run
            (flagTopic (CompetitionTimer.oval 1) (SimpleControl.floorIt 1)).start
            (publisherEvents pre)) tick).outputs ∧
      MayDrive (CompetitionTimer.oval 1) (SimpleControl.floorIt 1) (publisherEvents pre) s :=
  drives_mayDrive (CompetitionTimer.oval 1) (SimpleControl.floorIt 1) declared greenLap (.deliver ())
    ⟨0, 1 / 3, 0, 0, 1⟩ (by decide +kernel) (by decide +kernel)

end HitchOpen.AutowareLgsvlInterface
