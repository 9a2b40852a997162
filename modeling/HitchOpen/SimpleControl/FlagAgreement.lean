import HitchOpen.CompetitionTimer.PublishedFlag
import HitchOpen.Library.Topic
import HitchOpen.SimpleControl.FlagFreshness

/-!
# When the timer and the manager agree that the vehicle may drive

The timer counts seven flags as green, the manager compares with one of them: under a flag with a speed
limit the competition runs and the vehicle brakes.  The two nodes are connected by the topic
`/vehicle_flag`, on which messages are delayed and may be lost.

`Follows` says what the manager's flag is, given the last message and the checks since.
-/

namespace HitchOpen.SimpleControl

open HitchOpen.EventMachine HitchOpen.Messages HitchOpen.Runtime HitchOpen.VehicleFlag

section History

variable {R : Type*}

/-- A last flag message stays the last one when something else follows, and a new message takes its
place. -/
theorem LastFlag.of_concat {es after : List (Event R)} {e : Event R} {m : R} {flag : UInt8}
    (h : LastFlag (es ++ [e]) m flag after) :
    (e = ⟨m, .vehicleFlag flag⟩ ∧ after = []) ∨
      ∃ before, after = before ++ [e] ∧ LastFlag es m flag before ∧
        ∀ f, e.callback ≠ .vehicleFlag f := by
  obtain ⟨pre, hsplit⟩ := h.split
  rcases List.eq_nil_or_concat after with rfl | ⟨before, x, rfl⟩
  · left
    obtain ⟨-, he⟩ := List.append_inj' hsplit rfl
    exact ⟨List.singleton_inj.mp he, rfl⟩
  · right
    rw [List.concat_eq_append] at hsplit h ⊢
    rw [← List.cons_append, ← List.append_assoc] at hsplit
    obtain ⟨hes, he⟩ := List.append_inj' hsplit rfl
    obtain rfl : e = x := List.singleton_inj.mp he
    refine ⟨before, rfl, ⟨⟨pre, hes⟩, fun y hy => ?_⟩, ?_⟩
    · exact h.noFlag y (List.mem_append_left _ hy)
    · exact h.noFlag e (by simp)

end History

section Following

variable {R π : Type*} [Field R] [LinearOrder R]

/-- All checks since the message at `m` were in time. -/
def InTime (c : Config R π) (m : R) (after : List (Event R)) : Prop :=
  ∀ t ∈ checkTimes after, t - m ≤ c.flagTimeout

/-- The flag of the manager is the one it received last, or `RED` once a check has come too late. -/
def Follows (c : Config R π) (es : List (Event R)) (s : ManagerState R π) : Prop :=
  ∀ m flag after, LastFlag es m flag after → s.lastFlagTime = m ∧
    (InTime c m after → s.vehicleFlag = flag) ∧ (¬ InTime c m after → s.vehicleFlag = RED)

theorem inTime_concat {c : Config R π} {m : R} {after : List (Event R)} {e : Event R}
    (he : e.callback ≠ .flagCheckTimer) : InTime c m (after ++ [e]) ↔ InTime c m after := by
  rw [InTime, checkTimes_append, checkTimes_other he, List.append_nil]
  exact Iff.rfl

theorem inTime_check {c : Config R π} {m now : R} {after : List (Event R)} :
    InTime c m (after ++ [⟨now, .flagCheckTimer⟩]) ↔
      InTime c m after ∧ now - m ≤ c.flagTimeout := by
  rw [InTime, checkTimes_append, checkTimes_check, List.forall_mem_append, List.forall_mem_singleton]
  exact Iff.rfl

/-- A callback that touches neither the flag nor its time only lengthens the history. -/
theorem Follows.concat {c : Config R π} {es : List (Event R)} {s s' : ManagerState R π}
    (h : Follows c es s) {e : Event R} (hflag : ∀ f, e.callback ≠ .vehicleFlag f)
    (hcheck : e.callback ≠ .flagCheckTimer) (hsame : s'.vehicleFlag = s.vehicleFlag)
    (htime : s'.lastFlagTime = s.lastFlagTime) : Follows c (es ++ [e]) s' := by
  intro m flag after hlast
  rcases hlast.of_concat with ⟨rfl, -⟩ | ⟨before, rfl, hbefore, -⟩
  · exact absurd rfl (hflag flag)
  · rw [inTime_concat hcheck, hsame, htime]
    exact h m flag before hbefore

theorem checkFlagTimeout_follows {c : Config R π} {es : List (Event R)} {s : ManagerState R π}
    (h : Follows c es s) (now : R) :
    Follows c (es ++ [⟨now, .flagCheckTimer⟩]) (checkFlagTimeout c s now) := by
  intro m flag after hlast
  rcases hlast.of_concat with ⟨he, -⟩ | ⟨before, rfl, hbefore, -⟩
  · cases he
  · obtain ⟨rfl, hin, hout⟩ := h m flag before hbefore
    rw [inTime_check, checkFlagTimeout]
    by_cases hlate : now - s.lastFlagTime > c.flagTimeout
    · -- the check is too late: the flag is red afterwards, whatever it was
      have hno : ¬ (InTime c s.lastFlagTime before ∧ now - s.lastFlagTime ≤ c.flagTimeout) :=
        fun hc => absurd hc.2 (not_le.mpr hlate)
      by_cases hred : s.vehicleFlag = RED
      · rw [if_neg fun hc => hc.2 hred]
        exact ⟨rfl, fun hc => absurd hc hno, fun _ => hred⟩
      · rw [if_pos ⟨hlate, hred⟩]
        exact ⟨rfl, fun hc => absurd hc hno, fun _ => rfl⟩
    · rw [if_neg fun hc => hlate hc.1]
      refine ⟨rfl, fun hc => hin hc.1, fun hc => hout fun hbefore => ?_⟩
      exact hc ⟨hbefore, not_lt.mp hlate⟩

theorem step_follows (c : Config R π) (es : List (Event R)) (s : ManagerState R π) (e : Event R)
    (h : Follows c es s) : Follows c (es ++ [e]) (step c s e).state := by
  obtain ⟨now, callback⟩ := e
  cases callback with
  | shouldPublishControl data => exact h.concat (by simp) (by simp) rfl rfl
  | localPath msg => exact h.concat (by simp) (by simp) rfl rfl
  | odom msg => exact h.concat (by simp) (by simp) rfl rfl
  | controlTimer =>
      have hsame := runStep_flag c s now
      exact h.concat (by simp) (by simp) hsame.1 hsame.2
  | flagCheckTimer => exact checkFlagTimeout_follows h now
  | vehicleFlag received =>
      intro m flag after hlast
      rcases hlast.of_concat with ⟨he, rfl⟩ | ⟨_, -, -, hne⟩
      · cases he
        exact ⟨rfl, fun _ => rfl, fun hc => absurd (fun t ht => by simp [checkTimes] at ht) hc⟩
      · exact absurd rfl (hne received)

theorem run_follows {c : Config R π} {es : List (Event R)} {s : ManagerState R π}
    (h : (managerNode c).runFrom (init c) es = some s) : Follows c es s := by
  refine (managerNode c).runFrom_induct_history (H := Follows c) ?_ ?_ h
  · intro m flag after hlast
    obtain ⟨before, hsplit⟩ := hlast.split
    simp at hsplit
  · intro es s e hs _
    exact step_follows c es s e hs

end Following

/-! ### What the next control tick does -/

section Tick

variable {R π : Type*} [Field R]

/-- The next `runStep` runs the plugins instead of publishing the brake command. -/
def RunsPlugins (c : Config R π) (s : ManagerState R π) (now : R) : Prop :=
  .control .brake brakeControl ∉ (runStep c s now).outputs

theorem runsPlugins_iff_driving {c : Config R π} {s : ManagerState R π} {now : R} :
    RunsPlugins c s now ↔ Driving s := by
  rw [RunsPlugins]
  by_cases hd : Driving s
  · refine iff_of_true ?_ hd
    cases hrun : runPlugins c (generateCurrentState c s) now s.plugins newControl with
    | error u =>
        rw [runStep_undefined c now hd hrun]
        exact List.not_mem_nil
    | ok r =>
        rw [runStep_driving c now hd hrun]
        simp
  · refine iff_of_false ?_ hd
    rw [runStep_brake c now hd]
    simp

end Tick

section Fresh

variable {R π : Type*} [Field R] [LinearOrder R] [IsStrictOrderedRing R]

/-- With a clock that does not go back, a message that is fresh now was fresh at every check. -/
theorem inTime_of_fresh {c : Config R π} {es after : List (Event R)} {m now : R} {flag : UInt8}
    (hlast : LastFlag es m flag after)
    (hclock : ClockFrom c.createdAt (es ++ [⟨now, .controlTimer⟩]))
    (hfresh : now - m ≤ c.flagTimeout) : InTime c m after := by
  intro t ht
  obtain ⟨e, he, rfl⟩ := exists_now_of_mem_checkTimes ht
  obtain ⟨before, hsplit⟩ := hlast.split
  have hmem : e ∈ es := by
    rw [hsplit]
    exact List.mem_append_right _ (List.mem_cons_of_mem _ he)
  have hle : e.now ≤ now := hclock.le.2 e hmem
  linarith

end Fresh

/-! ### The two nodes together -/

section Together

variable {R π : Type*}

/-- What reaches the manager by other ways than the topic. -/
abbrev OwnEvent (R : Type*) := {e : Event R // ∀ flag, e.callback ≠ .vehicleFlag flag}

/-- An event of the two nodes and the topic; a delivery comes with the manager's clock. -/
abbrev JointEvent (R : Type*) := LinkEvent (CompetitionTimer.Event R) R (OwnEvent R)

variable [Field R] [LinearOrder R] [Sqrt R]

/-- The topic `/vehicle_flag` from the timer to the manager, which gets its other messages and its
timers from elsewhere. -/
def flagTopic (timer : CompetitionTimer.Config R) (c : Config R π) :
    Link (CompetitionTimer.State R) (CompetitionTimer.Event R) (CompetitionTimer.Output R) PyError
      (ManagerState R π) (Event R) (Output R) Undefined UInt8 R (OwnEvent R) where
  publisher := CompetitionTimer.timerNode timer
  subscriber := managerNode c
  sent
    | .flag flag => some flag
    | _ => none
  receive now flag := ⟨now, .vehicleFlag flag⟩
  own := Subtype.val

/-- In a joint run the manager's flag follows what it has heard. -/
theorem joint_follows {timer : CompetitionTimer.Config R} {c : Config R π} {es : List (JointEvent R)}
    {s : ManagerState R π}
    (h : ((flagTopic timer c).run (flagTopic timer c).start es).subscriber = some s) :
    Follows c ((flagTopic timer c).heard (flagTopic timer c).start es) s := by
  rw [Link.subscriber_eq] at h
  exact run_follows h

/-- A tick that the timer can reach publishes `flag` and leaves a competition running. -/
def RunsUnder (timer : CompetitionTimer.Config R) (flag : UInt8) : Prop :=
  ∃ pre t, (CompetitionTimer.timerNode timer).runFrom (CompetitionTimer.init timer) pre = some t ∧
    .flag flag ∈ (CompetitionTimer.publishVehicleFlag timer t).outputs ∧
    (CompetitionTimer.publishVehicleFlag timer t).state.competitionActive = true

/-- A green flag that the manager has received comes from a tick that left a competition running. -/
theorem runsUnder_of_heard {timer : CompetitionTimer.Config R} {c : Config R π}
    {es : List (JointEvent R)} {m : R} {flag : UInt8} {after : List (Event R)}
    (hlast : LastFlag ((flagTopic timer c).heard (flagTopic timer c).start es) m flag after)
    (hgreen : isGreen flag = true) : RunsUnder timer flag := by
  obtain ⟨before, hsplit⟩ := hlast.split
  have hmem : (⟨m, .vehicleFlag flag⟩ : Event R) ∈
      (flagTopic timer c).heard (flagTopic timer c).start es := by
    rw [hsplit]
    exact List.mem_append_right _ List.mem_cons_self
  rcases (flagTopic timer c).heard_sent (flagTopic timer c).start_traceable es _ hmem with
    ⟨e, he⟩ | ⟨k, f, he, pre, t, e, hpre, hsent⟩
  · -- no flag reaches the manager by other ways
    exact absurd (congrArg Event.callback he).symm (e.2 flag)
  · cases he
    obtain ⟨out, hout, hflag⟩ := List.mem_filterMap.mp hsent
    have hpublished : out = .flag flag := by
      cases out with
      | flag f =>
          obtain rfl : f = flag := Option.some.inj hflag
          rfl
      | _ => cases hflag
    rw [hpublished] at hout
    obtain ⟨rfl, hparam⟩ := CompetitionTimer.flag_of_step hout
    exact ⟨pre, t, hpre, hout, CompetitionTimer.publishVehicleFlag_green timer (hparam ▸ hgreen)⟩

variable [IsStrictOrderedRing R]

/-- **Agreement.**  In every joint run, with publishing enabled, the next control tick runs the plugins
exactly when the last flag message carried `GREEN` itself and every check since found it in time.  A
competition runs under every green flag that arrives; so while the message is fresh the manager agrees
with the timer on a green flag exactly when that flag is `GREEN`. -/
theorem runsPlugins_iff_green (timer : CompetitionTimer.Config R) (c : Config R π)
    (es : List (JointEvent R)) (s : ManagerState R π) (m now : R) (flag : UInt8)
    (after : List (Event R))
    (hrun : ((flagTopic timer c).run (flagTopic timer c).start es).subscriber = some s)
    (hlast : LastFlag ((flagTopic timer c).heard (flagTopic timer c).start es) m flag after)
    (hpub : s.shouldPublishControl = true) :
    (RunsPlugins c s now ↔ flag = GREEN ∧ InTime c m after) ∧
    (isGreen flag = true → RunsUnder timer flag) ∧
    (ClockFrom c.createdAt
        ((flagTopic timer c).heard (flagTopic timer c).start es ++ [⟨now, .controlTimer⟩]) →
      now - m ≤ c.flagTimeout →
      ((isGreen flag = true → RunsPlugins c s now) ↔ (isGreen flag = true → flag = GREEN))) := by
  obtain ⟨-, hin, hout⟩ := joint_follows hrun m flag after hlast
  have hiff : RunsPlugins c s now ↔ flag = GREEN ∧ InTime c m after := by
    rw [runsPlugins_iff_driving, Driving]
    by_cases htime : InTime c m after
    · rw [hin htime]
      exact ⟨fun h => ⟨h.2, htime⟩, fun h => ⟨hpub, h.1⟩⟩
    · rw [hout htime]
      exact ⟨fun h => absurd h.2 red_ne_green, fun h => absurd h.2 htime⟩
  refine ⟨hiff, runsUnder_of_heard hlast, fun hclock hfresh => ?_⟩
  have htime := inTime_of_fresh hlast hclock hfresh
  rw [hiff, and_iff_left htime]

end Together

/-! ### A green flag with a speed limit -/

/-- The operator sets a flag, the timer publishes it and the manager receives it after a second. -/
def flagArrives (value : String) : List (JointEvent ℚ) :=
  [.publisher (.setVehicleFlag value), .publisher .flagTick, .deliver 1]

/-- The manager afterwards. -/
def informed (flag : UInt8) : ManagerState ℚ Unit :=
  { init (floorIt 1) with vehicleFlag := flag, lastFlagTime := 1 }

/-- The topic between a timer on the oval and a manager with the default timeout. -/
def ovalTopic : Link (CompetitionTimer.State ℚ) (CompetitionTimer.Event ℚ)
    (CompetitionTimer.Output ℚ) PyError (ManagerState ℚ Unit) (Event ℚ) (Output ℚ) Undefined UInt8 ℚ
    (OwnEvent ℚ) :=
  flagTopic (CompetitionTimer.oval 1) (floorIt 1)

theorem flagArrives_heard :
    ovalTopic.heard ovalTopic.start (flagArrives "g10") = [⟨1, .vehicleFlag G10⟩] := by
  decide +kernel

theorem flagArrives_last :
    LastFlag (ovalTopic.heard ovalTopic.start (flagArrives "g10")) 1 G10 [] := by
  rw [flagArrives_heard]
  exact LastFlag.of_message [] 1 G10

theorem flagArrives_run :
    (ovalTopic.run ovalTopic.start (flagArrives "g10")).subscriber = some (informed G10) := by
  decide +kernel

/-- The run with `g10`, and a tick half a second later. -/
theorem runsPlugins_iff_green_g10 :
    (RunsPlugins (floorIt 1) (informed G10) (3 / 2) ↔ G10 = GREEN ∧ InTime (floorIt 1) 1 []) ∧
    (isGreen G10 = true → RunsUnder (CompetitionTimer.oval 1) G10) ∧
    (ClockFrom (floorIt 1).createdAt
        (ovalTopic.heard ovalTopic.start (flagArrives "g10") ++ [⟨3 / 2, .controlTimer⟩]) →
      (3 / 2 : ℚ) - 1 ≤ (floorIt 1).flagTimeout →
      ((isGreen G10 = true → RunsPlugins (floorIt 1) (informed G10) (3 / 2)) ↔
        (isGreen G10 = true → G10 = GREEN))) :=
  runsPlugins_iff_green (CompetitionTimer.oval 1) (floorIt 1) (flagArrives "g10") (informed G10) 1
    (3 / 2) G10 [] flagArrives_run flagArrives_last rfl

/-- Under the green flag with the lowest speed limit the competition runs and the vehicle brakes. -/
theorem g10_brakes :
    ¬ ∀ (timer : CompetitionTimer.Config ℚ) (c : Config ℚ Unit) (es : List (JointEvent ℚ))
        (s : ManagerState ℚ Unit) (m now : ℚ) (flag : UInt8) (after : List (Event ℚ)),
      ((flagTopic timer c).run (flagTopic timer c).start es).subscriber = some s →
      LastFlag ((flagTopic timer c).heard (flagTopic timer c).start es) m flag after →
      ClockFrom c.createdAt
        ((flagTopic timer c).heard (flagTopic timer c).start es ++ [⟨now, .controlTimer⟩]) →
      isGreen flag = true → now - m ≤ c.flagTimeout → s.shouldPublishControl = true →
      RunsPlugins c s now := by
  intro h
  have hclock : ClockFrom 0
      (ovalTopic.heard ovalTopic.start (flagArrives "g10") ++ [⟨3 / 2, .controlTimer⟩]) := by
    rw [flagArrives_heard]
    simp [ClockFrom]
    norm_num
  have hruns := h (CompetitionTimer.oval 1) (floorIt 1) (flagArrives "g10") (informed G10) 1 (3 / 2)
    G10 [] flagArrives_run flagArrives_last hclock (by decide) (by norm_num [floorIt]) rfl
  rw [runsPlugins_iff_driving] at hruns
  exact absurd hruns.2 (by decide)

end HitchOpen.SimpleControl
