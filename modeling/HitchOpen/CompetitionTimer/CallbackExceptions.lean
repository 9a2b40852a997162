import HitchOpen.CompetitionTimer.ClockReadings

/-!
# When a callback of the timer raises

`gps_callback` returns early while the clock is unknown, but a competition that a green flag opens
before the first `/clock` message keeps `start_time` at `None` for its whole length.  Its second
crossing subtracts that `None`.  `callbacks_raise_nothing_iff` shows that this is the only way in
which a callback raises: `current_lap` exists whenever a competition is active, every flag has a name,
and the end time is set whenever a black flag saves results.  `callbacks_raise_nothing_of_clock` draws
the conclusion for a simulation whose clock runs before the first green flag.
-/

namespace HitchOpen.CompetitionTimer

open HitchOpen.EventMachine HitchOpen.Messages HitchOpen.Runtime HitchOpen.VehicleFlag

section Saving

variable {R : Type*} [Field R] [LinearOrder R]

theorem saveResults_raises_nothing {s : State R} (h : s.endTime ≠ none) :
    (saveResults s).2 = none := by
  obtain ⟨t₁, ht⟩ := Option.ne_none_iff_exists'.mp h
  simp only [saveResults, ht]
  split
  · rfl
  · split
    · rfl
    · split <;> rfl

/-- Ending a competition saves its results when the target lap is recorded.  By then the end time is
set, so that saving does not raise. -/
theorem endCompetition_eq {c : Config R} {s : State R} {k : Ledger R} (h : Represents c s k)
    (published : List (Output R)) :
    endCompetition c s published =
      .done { s with competitionActive := false }
        (published ++ if c.targetLaps < k.crossings.length then (saveResults s).1 else []) := by
  have hsame : saveResults { s with competitionActive := false } = saveResults s := rfl
  rw [endCompetition]
  dsimp only
  split
  · rename_i hnone
    rw [h.currentLap] at hnone
    cases hnone
  · rename_i n hn
    have hlen : k.crossings.length = n := Option.some.inj (h.currentLap.symm.trans hn)
    subst hlen
    by_cases hlt : c.targetLaps < k.crossings.length
    · have hend : s.endTime ≠ none := by
        rw [h.endTime hlt, ne_eq, List.getLast?_eq_none_iff, ← List.length_eq_zero_iff]
        omega
      have hsave : saveResults s = ((saveResults s).1, none) :=
        Prod.ext rfl (saveResults_raises_nothing hend)
      rw [if_neg (by omega), if_pos hlt, hsame, hsave]
    · rw [if_pos (by omega), if_neg hlt, List.append_nil]

theorem publishVehicleFlag_raises_nothing {c : Config R} {s : State R} {k : Option (Ledger R)}
    (h : Accounted c s k) : (publishVehicleFlag c s).stop = none := by
  rcases publishVehicleFlag_cases c s with ⟨-, -, hr⟩ | ⟨-, ha, hr⟩ | ⟨-, -, hr⟩
  · rw [hr]
    rfl
  · obtain ⟨k₀, -, hk⟩ := h.of_active ha
    rw [hr, endCompetition_eq (s := { s with vehicleFlag := BLACK })
        (hk.of_sameTiming ⟨rfl, rfl, rfl, rfl, rfl⟩)]
    rfl
  · rw [hr]
    rfl

end Saving

variable {R : Type*} [Field R] [LinearOrder R] [Sqrt R]

/-- A fix that completes the first lap of a competition without a start time. -/
def UntimedLap (c : Config R) (s : State R) : Event R → Prop
  | .gps msg => s.startTime = none ∧ s.currentLap = some 1 ∧ ∃ now, Detected c s msg now
  | _ => False

/-- What a single callback needs in order not to raise. -/
theorem step_raises_nothing_iff {c : Config R} (hc : 1 ≤ c.targetLaps) {s : State R}
    (hI : ∃ k, Accounted c s k) (e : Event R) :
    (step c s e).stop = none ↔ ¬ UntimedLap c s e := by
  obtain ⟨_, hI⟩ := hI
  cases e with
  | clock sec nanosec => exact iff_of_true rfl not_false
  | setVehicleFlag value => exact iff_of_true rfl not_false
  | flagTick => exact iff_of_true (publishVehicleFlag_raises_nothing hI) not_false
  | gps msg =>
      simp only [step]
      rcases gpsCallback_cases c s msg with ⟨hno, hr⟩ | ⟨now, hdet, hr⟩
      · rw [hr]
        refine iff_of_true rfl ?_
        rintro ⟨-, -, now, h⟩
        exact hno now h
      · obtain ⟨k, -, hk⟩ := hI.of_active hdet.1.1
        rcases countCrossing_represents hc hk now with ⟨hst, hone, herr⟩ | ⟨s', out, hdone, hk', -⟩
        · rw [hr, herr]
          refine iff_of_false (by simp) fun h => h ⟨hk.startTime.trans hst, ?_, now, hdet⟩
          rw [hk.currentLap, hone]
        · rw [hr, hdone]
          refine iff_of_true rfl ?_
          rintro ⟨hst, hlap, -⟩
          -- the ledger after this crossing has two of them, so it has a start time
          have htwo := hk'.unstarted (hk.startTime.symm.trans hst)
          have hone : k.crossings.length = 1 := Option.some.inj (hk.currentLap.symm.trans hlap)
          simp only [Ledger.cross, List.length_append, List.length_singleton] at htwo
          omega

/-- **Exceptions.**  In a run from node start no callback raises if and only if no fix completes the
first lap of a competition that was opened before the first `/clock` message. -/
theorem callbacks_raise_nothing_iff (c : Config R) (hc : 1 ≤ c.targetLaps) (es : List (Event R)) :
    (timerNode c).EachStep (init c) es (fun s e => (step c s e).stop = none) ↔
      (timerNode c).EachStep (init c) es (fun s e => ¬ UntimedLap c s e) :=
  (timerNode c).eachStep_congr (I := fun s => ∃ k, Accounted c s k) ⟨none, init_accounted c⟩
    (fun _ e ⟨_, hk⟩ _ => (step_accounted hc hk e).imp fun _ h => h.2)
    fun _ e hI => step_raises_nothing_iff hc hI e

/-! ### A clock that runs before the first green flag -/

/-- Whatever has been opened has a start time. -/
def StartTimed (s : State R) : Prop :=
  s.startTime = none → s.currentLap = none

/-- A competition that is opened while the clock is known gets a start time. -/
theorem step_startTimed {c : Config R} {s : State R} {e : Event R} (h : StartTimed s)
    (hclock : e = .flagTick → isGreen (flagOfParam s.vehicleFlagParam) = true → s.currentTime ≠ none)
    (hd : (step c s e).stop = none) : StartTimed (step c s e).state := by
  cases e with
  | clock sec nanosec => exact h
  | setVehicleFlag value => exact h
  | flagTick =>
      simp only [step]
      rcases publishVehicleFlag_cases c s with ⟨hg, -, hr⟩ | ⟨-, -, hr⟩ | ⟨-, -, hr⟩
      · rw [hr]
        exact fun hst => absurd hst (hclock rfl hg)
      · rw [hr, endCompetition_state]
        exact h
      · rw [hr]
        exact h
  | gps msg =>
      simp only [step] at hd ⊢
      rcases gpsCallback_cases c s msg with ⟨-, hr⟩ | ⟨now, -, hr⟩
      · rw [hr]
        exact h
      · rw [hr] at hd ⊢
        intro hst
        rw [(countCrossing_times c s now).2] at hst
        -- without a lap counter the callback would have raised
        rw [countCrossing_unopened c (h hst)] at hd
        cases hd

/-- **A clock from the start.**  In a run whose green ticks all come after a `/clock` message no
callback raises. -/
theorem callbacks_raise_nothing_of_clock (c : Config R) (hc : 1 ≤ c.targetLaps) (es : List (Event R))
    (hclock : ∀ pre s, pre ++ [.flagTick] <+: es → (timerNode c).runFrom (init c) pre = some s →
      isGreen (flagOfParam s.vehicleFlagParam) = true → clockReadings pre ≠ []) :
    (timerNode c).EachStep (init c) es fun s e => (step c s e).stop = none := by
  have hsteps : (timerNode c).EachStep (init c) es fun s e => e = .flagTick →
      isGreen (flagOfParam s.vehicleFlagParam) = true → s.currentTime ≠ none := by
    rintro pre e s hpre hrun rfl hg
    rw [run_currentTime hrun, ne_eq, List.getLast?_eq_none_iff]
    exact hclock pre s hpre hrun hg
  have htimed : (timerNode c).EachState (init c) es StartTimed :=
    (timerNode c).eachState_of_eachStep (I := fun _ => True) trivial (fun _ _ _ _ _ => trivial)
      (fun _ => rfl) (fun s e _ hs hC hd => step_startTimed hs hC hd) hsteps
  intro pre e s hpre hrun
  refine (step_raises_nothing_iff hc (run_accounted hc hrun) e).mpr ?_
  cases e with
  | gps msg =>
      rintro ⟨hst, hlap, -⟩
      rw [htimed pre s ((List.prefix_append pre _).trans hpre) hrun hst] at hlap
      cases hlap
  | clock sec nanosec => exact not_false
  | setVehicleFlag value => exact not_false
  | flagTick => exact not_false

/-! ### A green flag before the clock -/

/-- The green flag is set before the simulation publishes its clock. -/
def greenBeforeClock : List (Event ℚ) :=
  [.setVehicleFlag "green", .flagTick, .clock 1 0, onTheLine, .clock 31 0]

theorem greenBeforeClock_reaches :
    ∃ s, (timerNode (oval 10)).runFrom (init (oval 10)) greenBeforeClock = some s ∧
      (step (oval 10) s onTheLine).stop = some .typeError := by
  have hrun : ((timerNode (oval 10)).runFrom (init (oval 10)) greenBeforeClock).map
      (fun s => (step (oval 10) s onTheLine).stop) = some (some .typeError) := by decide +kernel
  exact Option.map_eq_some_iff.mp hrun

/-- The next crossing is an untimed lap. -/
theorem greenBeforeClock_untimed :
    ¬ (timerNode (oval 10)).EachStep (init (oval 10)) (greenBeforeClock ++ [onTheLine])
      (fun s e => ¬ UntimedLap (oval 10) s e) := by
  intro h
  obtain ⟨s, hs, hstop⟩ := greenBeforeClock_reaches
  have hnone : (step (oval 10) s onTheLine).stop = none :=
    (callbacks_raise_nothing_iff (oval 10) (by decide) _).mpr h greenBeforeClock onTheLine s
      (List.prefix_refl _) hs
  rw [hstop] at hnone
  cases hnone

theorem callbacks_raise_typeError :
    ¬ ∀ es, (timerNode (oval 10)).EachStep (init (oval 10)) es
      (fun s e => (step (oval 10) s e).stop = none) := by
  intro h
  obtain ⟨s, hs, hstop⟩ := greenBeforeClock_reaches
  have hnone : (step (oval 10) s onTheLine).stop = none :=
    h (greenBeforeClock ++ [onTheLine]) greenBeforeClock onTheLine s (List.prefix_refl _) hs
  rw [hstop] at hnone
  cases hnone

end HitchOpen.CompetitionTimer
