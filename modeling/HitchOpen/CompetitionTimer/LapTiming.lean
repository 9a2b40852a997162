import HitchOpen.CompetitionTimer.LapLedger

/-!
# Lap counting and lap timing over whole runs

`lapTiming_of_run` reads the bookkeeping of a competition off its ledger: the lap counter, the number
of recorded laps, their sum and the end time.

The number of laps is bounded by the target only as long as no fix is detected as a crossing between
the fix that records the target lap and the tick that closes the competition: `gps_callback` itself
never looks whether the target has been reached before, and the tick reads whatever the operator has
written into the parameter by then.  `lapTimes_length_le_iff` says so exactly.
-/

namespace HitchOpen.CompetitionTimer

open HitchOpen.EventMachine HitchOpen.Messages HitchOpen.Runtime HitchOpen.VehicleFlag

section Bookkeeping

variable {R : Type*} [Field R] [LinearOrder R]

/-- How the attributes of a started competition hang together. -/
structure LapTiming (c : Config R) (s : State R) (currentLap : ℕ) (startTime : R) : Prop where
  lastCrossingTime : s.lastCrossingTime = none ↔ currentLap = 0
  laps : (s.lapTimes.length : ℤ) = max ((currentLap : ℤ) - 1) 0
  total : 2 ≤ currentLap →
    ∃ last, s.lastCrossingTime = some last ∧ s.lapTimes.sum = last - startTime
  endTime : c.targetLaps < currentLap → s.endTime ≠ none ∧ s.endTime = s.lastCrossingTime
  /-- The total time in the file is the one in the log. -/
  saved : c.targetLaps < currentLap → ∀ logged r, .loggedTotalTime logged ∈ (saveResults s).1 →
    .csv r ∈ (saveResults s).1 → r.totalTime = logged

/-- The total that `save_results` logs, and the one it writes. -/
theorem saveResults_totals {s : State R} {t₀ t₁ logged : R} {r : Results R}
    (hs : s.startTime = some t₀) (he : s.endTime = some t₁)
    (hlog : .loggedTotalTime logged ∈ (saveResults s).1) (hcsv : .csv r ∈ (saveResults s).1) :
    logged = t₁ - t₀ ∧ r = results s.lapTimes := by
  simp only [saveResults, hs, he] at hlog hcsv
  by_cases h0 : t₀ = 0
  · simp [h0] at hlog
  · by_cases hl : s.lapTimes = []
    · simp [h0, hl] at hcsv
    · simp only [h0, hl, if_false, List.mem_cons, Output.loggedTotalTime.injEq, reduceCtorEq,
        List.not_mem_nil, or_false, false_or, Output.csv.injEq] at hlog hcsv
      exact ⟨hlog, hcsv⟩

/-- The bookkeeping is right in every state that keeps a ledger with a start time. -/
theorem Represents.lapTiming {c : Config R} (hc : 1 ≤ c.targetLaps) {s : State R} {k : Ledger R}
    (h : Represents c s k) {t₀ : R} (hs : s.startTime = some t₀) :
    LapTiming c s k.crossings.length t₀ := by
  have hk : k.startTime = some t₀ := h.startTime ▸ hs
  have htotal : 2 ≤ k.crossings.length →
      ∃ last, s.lastCrossingTime = some last ∧ s.lapTimes.sum = last - t₀ := by
    intro h2
    obtain ⟨last, hlast, hsum⟩ := Ledger.lapTimes_sum hk h2
    exact ⟨last, h.lastCrossingTime.trans hlast, h.lapTimes ▸ hsum⟩
  have hend : c.targetLaps < k.crossings.length →
      s.endTime ≠ none ∧ s.endTime = s.lastCrossingTime := by
    intro hlt
    rw [h.endTime hlt, h.lastCrossingTime]
    refine ⟨?_, rfl⟩
    rw [ne_eq, List.getLast?_eq_none_iff, ← List.length_eq_zero_iff]
    omega
  exact {
    lastCrossingTime := by
      rw [h.lastCrossingTime, List.getLast?_eq_none_iff, List.length_eq_zero_iff]
    laps := by
      rw [h.lapTimes, Ledger.lapTimes_length hk]
      omega
    total := htotal
    endTime := hend
    saved := by
      intro hlt logged r hlog hcsv
      obtain ⟨last, hlast, hsum⟩ := htotal (by omega)
      obtain ⟨rfl, rfl⟩ := saveResults_totals hs ((hend hlt).2.trans hlast) hlog hcsv
      exact hsum }

end Bookkeeping

variable {R : Type*} [Field R] [LinearOrder R] [Sqrt R]

/-- **Lap timing.**  In every state that a run reaches in which a competition has been started with
the clock known, the lap counter, the lap times, the last crossing and the end time agree. -/
theorem lapTiming_of_run (c : Config R) (hc : 1 ≤ c.targetLaps) (es : List (Event R)) (s : State R)
    (hrun : (timerNode c).runFrom (init c) es = some s) (currentLap : ℕ)
    (hlap : s.currentLap = some currentLap) (startTime : R) (hstart : s.startTime = some startTime) :
    LapTiming c s currentLap startTime := by
  obtain ⟨k, hk⟩ := run_accounted hc hrun
  cases hk with
  | idle _ hl _ _ =>
      rw [hl] at hlap
      cases hlap
  | @keeps k h =>
      have hn : k.crossings.length = currentLap := Option.some.inj (h.currentLap.symm.trans hlap)
      exact hn ▸ h.lapTiming hc hstart

/-- A race of two laps, paused once by a red flag. -/
def twoLaps : List (Event ℚ) :=
  [.clock 1 0, .setVehicleFlag "Green", .flagTick, onTheLine, .clock 31 500000000, onTheLine,
    .setVehicleFlag "red", .flagTick, .clock 70 0, onTheLine]

def afterTwoLaps : State ℚ where
  vehicleFlagParam := "black"
  vehicleFlag := BLACK
  competitionActive := true
  startTime := some 1
  endTime := some 70
  currentTime := some 70
  lastCrossingTime := some 70
  lapTimes := [61 / 2, 77 / 2]
  currentLap := some 3

theorem lapTiming_twoLaps : LapTiming (oval 2) afterTwoLaps 3 1 :=
  lapTiming_of_run (oval 2) (by decide) twoLaps afterTwoLaps (by decide +kernel) 3 rfl 1 rfl

/-! ### How many laps are recorded -/

/-- The step that would record one lap too many: a fix detected as a crossing when the target lap is
already recorded and the competition not yet closed. -/
def Overruns (c : Config R) (s : State R) : Event R → Prop
  | .gps msg => s.lapTimes.length = c.targetLaps ∧ ∃ now, Detected c s msg now
  | _ => False

/-- From a state within the target, a step stays within it exactly when it does not overrun. -/
theorem lapTimes_length_step {c : Config R} (hc : 1 ≤ c.targetLaps) {s : State R}
    (hI : ∃ k, Accounted c s k) (hP : s.lapTimes.length ≤ c.targetLaps) (e : Event R)
    (hd : (step c s e).stop = none) :
    (step c s e).state.lapTimes.length ≤ c.targetLaps ↔ ¬ Overruns c s e := by
  cases e with
  | clock sec nanosec => exact iff_of_true hP not_false
  | setVehicleFlag value => exact iff_of_true hP not_false
  | flagTick =>
      refine iff_of_true ?_ not_false
      rcases publishVehicleFlag_laps c s with ⟨-, h⟩ | ⟨-, h⟩ <;> simp only [step, h]
      · exact hP
      · exact Nat.zero_le _
  | gps msg =>
      simp only [step] at hd ⊢
      rcases gpsCallback_cases c s msg with ⟨hno, hr⟩ | ⟨now, hdet, hr⟩
      · rw [hr]
        exact iff_of_true hP fun ⟨_, now, h⟩ => hno now h
      · rw [hr] at hd ⊢
        obtain ⟨_, hI⟩ := hI
        obtain ⟨k, -, hk⟩ := hI.of_active hdet.1.1
        rcases countCrossing_represents hc hk now with ⟨-, -, herr⟩ | ⟨s', out, hdone, hk', -⟩
        · rw [herr] at hd
          cases hd
        · have hn := hk.lapTimes_length
          have hn' := hk'.lapTimes_length
          simp only [Ledger.cross, List.length_append, List.length_singleton] at hn'
          rw [hdone, Reply.done_state, hn']
          refine ⟨?_, ?_⟩
          · rintro h ⟨hfull, -⟩
            omega
          · intro h
            have hnot : s.lapTimes.length ≠ c.targetLaps := fun hfull => h ⟨hfull, now, hdet⟩
            omega

/-- An overrunning step is not one that raises. -/
theorem Overruns.done {c : Config R} (hc : 1 ≤ c.targetLaps) {s : State R}
    (hI : ∃ k, Accounted c s k) {e : Event R} (h : Overruns c s e) : (step c s e).stop = none := by
  cases e with
  | clock sec nanosec => exact h.elim
  | setVehicleFlag value => exact h.elim
  | flagTick => exact h.elim
  | gps msg =>
      obtain ⟨hfull, _, hdet⟩ := h
      simp only [step]
      rcases gpsCallback_cases c s msg with ⟨-, hr⟩ | ⟨now, -, hr⟩
      · rw [hr]
        rfl
      · obtain ⟨_, hI⟩ := hI
        obtain ⟨k, -, hk⟩ := hI.of_active hdet.1.1
        rcases countCrossing_represents hc hk now with ⟨-, hone, -⟩ | ⟨s', out, hdone, -, -⟩
        · -- with a single crossing there is no recorded lap, and the target is at least one
          have hn := hk.lapTimes_length
          omega
        · rw [hr, hdone]
          rfl

/-- **Recorded laps.**  A run records at most `targetLaps` laps, in every state it passes through, if
and only if no fix is detected as a crossing while the target lap is recorded and the competition
still active. -/
theorem lapTimes_length_le_iff (c : Config R) (hc : 1 ≤ c.targetLaps) (es : List (Event R)) :
    (timerNode c).EachState (init c) es (fun s => s.lapTimes.length ≤ c.targetLaps) ↔
      (timerNode c).EachStep (init c) es (fun s e => ¬ Overruns c s e) := by
  refine (timerNode c).eachState_iff_eachStep (I := fun s => ∃ k, Accounted c s k)
    ⟨none, init_accounted c⟩ (fun _ e ⟨_, hk⟩ _ _ => (step_accounted hc hk e).imp fun _ h => h.2)
    (Nat.zero_le _) (fun s e hI hP hd => lapTimes_length_step hc hI hP e hd) ?_
  intro s e hI _ hhalt hover
  exact hhalt (hover.done hc hI)

/-- A race of one lap; once it is recorded, the operator writes `green` before the next tick. -/
def overrun : List (Event ℚ) :=
  [.clock 1 0, .setVehicleFlag "green", .flagTick, onTheLine, .clock 31 0, onTheLine,
    .setVehicleFlag "green", .flagTick, .clock 61 0, onTheLine]

theorem overrun_reaches : ∃ s, (timerNode (oval 1)).runFrom (init (oval 1)) overrun = some s ∧
    s.lapTimes = [30, 30] := by
  have hrun : ((timerNode (oval 1)).runFrom (init (oval 1)) overrun).map (·.lapTimes) =
      some [30, 30] := by decide +kernel
  exact Option.map_eq_some_iff.mp hrun

/-- The second lap of `overrun` comes from an overrunning step. -/
theorem overrun_overruns :
    ¬ (timerNode (oval 1)).EachStep (init (oval 1)) overrun (fun s e => ¬ Overruns (oval 1) s e) := by
  intro h
  obtain ⟨s, hs, hlaps⟩ := overrun_reaches
  have hle : s.lapTimes.length ≤ (oval 1).targetLaps :=
    (lapTimes_length_le_iff (oval 1) (by decide) overrun).mpr h overrun s (List.prefix_refl _) hs
  rw [hlaps] at hle
  exact absurd hle (by decide)

theorem lapTimes_exceed_target :
    ¬ ∀ es s, (timerNode (oval 1)).runFrom (init (oval 1)) es = some s →
      s.lapTimes.length ≤ (oval 1).targetLaps := by
  intro h
  obtain ⟨s, hs, hlaps⟩ := overrun_reaches
  have hle := h overrun s hs
  rw [hlaps] at hle
  exact absurd hle (by decide)

end HitchOpen.CompetitionTimer
