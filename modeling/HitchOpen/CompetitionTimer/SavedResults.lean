import HitchOpen.CompetitionTimer.CallbackExceptions

/-!
# Which results reach the file

Results are due when a competition ends: on a black flag once the target number of laps is recorded,
and at shutdown when a competition with recorded laps is still active.  `save_results` is called on
both paths, but it takes a start time of zero for a competition that was not started, and it subtracts
from the end time before anything is written, which raises when no competition of the run has recorded
its target lap.

`written_eq_due_iff` compares, for a whole run of `main`, what is written with what is due.
-/

namespace HitchOpen.CompetitionTimer

open HitchOpen.EventMachine HitchOpen.Messages HitchOpen.Runtime HitchOpen.VehicleFlag

section Files

variable {R : Type*}

/-- The lap times in a file that the CSV-writing part writes. -/
def savedLaps : Output R → Option (List R)
  | .csv r => some (r.laps.map (·.2))
  | _ => none

def saved (outs : List (Output R)) : List (List R) := outs.filterMap savedLaps

@[simp] theorem saved_nil : saved ([] : List (Output R)) = [] := rfl

theorem saved_append (a b : List (Output R)) : saved (a ++ b) = saved a ++ saved b :=
  List.filterMap_append

end Files

section Due

variable {R : Type*} [Field R]

/-- A recorded lap needs a start time. -/
theorem Represents.startTime_ne_none {c : Config R} {s : State R} {k : Ledger R}
    (h : Represents c s k) (hl : s.lapTimes ≠ []) : s.startTime ≠ none := by
  intro hs
  have h1 := h.unstarted (h.startTime ▸ hs)
  have hlen := h.lapTimes_length
  exact hl (List.eq_nil_of_length_eq_zero (by omega))

variable [LinearOrder R]

/-- A competition that ends on a black flag after its target laps is due. -/
def dueAt (c : Config R) (s : State R) : Event R → List (List R)
  | .flagTick =>
      if s.competitionActive = true ∧ flagOfParam s.vehicleFlagParam = BLACK ∧ s.lapTimes ≠ [] ∧
          c.targetLaps ≤ s.lapTimes.length then [s.lapTimes]
      else []
  | _ => []

/-- A competition with recorded laps that is active when the node shuts down is due. -/
def dueAtShutdown (s : State R) : List (List R) :=
  if s.competitionActive = true ∧ s.lapTimes ≠ [] then [s.lapTimes] else []

theorem saved_results (logged : R) (lapTimes : List R) :
    saved [.loggedTotalTime logged, .csv (results lapTimes)] = [lapTimes] := by
  have hlaps : (results lapTimes).laps.map (·.2) = lapTimes := by
    simp [results, Function.comp_def, List.zipIdx_map_fst]
  show [(results lapTimes).laps.map (·.2)] = [lapTimes]
  rw [hlaps]

/-- What `save_results` writes. -/
theorem saved_saveResults (s : State R) :
    saved (saveResults s).1 =
      if s.startTime ≠ none ∧ s.startTime ≠ some 0 ∧ s.endTime ≠ none ∧ s.lapTimes ≠ [] then
        [s.lapTimes]
      else [] := by
  rw [saveResults]
  cases hs : s.startTime with
  | none => simp
  | some t₀ =>
      cases he : s.endTime with
      | none => by_cases h0 : t₀ = 0 <;> simp [h0]
      | some t₁ =>
          by_cases h0 : t₀ = 0
          · simp [h0]
          · by_cases hl : s.lapTimes = []
            · simp [h0, hl, saved, savedLaps]
            · simp [h0, hl, saved_results]

/-- Ending a competition saves its laps when they are due, unless the start time is zero. -/
theorem saved_endCompetition {c : Config R} (hc : 1 ≤ c.targetLaps) {s : State R} {k : Ledger R}
    (h : Represents c s k) (flag : UInt8) :
    saved (endCompetition c s [.flag flag]).outputs =
      if s.startTime = some 0 then []
      else if s.lapTimes ≠ [] ∧ c.targetLaps ≤ s.lapTimes.length then [s.lapTimes] else [] := by
  have hlen := h.lapTimes_length
  rw [endCompetition_eq h, Reply.done_outputs, saved_append]
  by_cases hlt : c.targetLaps < k.crossings.length
  · have hl : s.lapTimes ≠ [] := by
      rw [ne_eq, ← List.length_eq_zero_iff]
      omega
    have hend : s.endTime ≠ none := by
      rw [h.endTime hlt, ne_eq, List.getLast?_eq_none_iff, ← List.length_eq_zero_iff]
      omega
    have hle : c.targetLaps ≤ s.lapTimes.length := by omega
    rw [if_pos hlt, saved_saveResults]
    by_cases h0 : s.startTime = some 0
    · simp [h0, saved, savedLaps]
    · simp [h0, hl, hend, hle, h.startTime_ne_none hl, saved, savedLaps]
  · have hle : ¬ c.targetLaps ≤ s.lapTimes.length := by omega
    simp [hlt, hle, saved, savedLaps]

/-- At shutdown the laps are saved when they are due, unless the start time is zero or no end time
has been set. -/
theorem saved_shutdown {c : Config R} {s : State R} {k : Option (Ledger R)} (h : Accounted c s k) :
    saved (shutdown s) =
      if s.startTime = some 0 ∨ s.endTime = none then [] else dueAtShutdown s := by
  unfold shutdown dueAtShutdown
  by_cases ha : s.competitionActive = true
  · obtain ⟨k₀, -, hk⟩ := h.of_active ha
    rw [if_pos ha, saved_saveResults]
    by_cases hl : s.lapTimes = []
    · simp [hl]
    · simp only [ha, hl, hk.startTime_ne_none hl, ne_eq, not_false_eq_true, true_and, and_true,
        if_true]
      by_cases h0 : s.startTime = some 0 <;> by_cases he : s.endTime = none <;> simp [h0, he]
  · simp [ha]

end Due

section Runs

variable {R : Type*} [Field R] [LinearOrder R] [Sqrt R]

/-- A fix writes no file. -/
theorem saved_gpsCallback (c : Config R) (s : State R) (msg : NavSatFix R) :
    saved (gpsCallback c s msg).outputs = [] := by
  rcases gpsCallback_cases c s msg with ⟨-, hr⟩ | ⟨now, -, hr⟩
  · rw [hr]
    rfl
  · rw [hr]
    rw [countCrossing]
    split
    · rfl
    · split
      · rfl
      · split <;> rfl

/-- Each step writes what is due at it, unless the competition started at time zero. -/
theorem saved_step {c : Config R} (hc : 1 ≤ c.targetLaps) {s : State R} {k : Option (Ledger R)}
    (h : Accounted c s k) (e : Event R) :
    saved (step c s e).outputs = if s.startTime = some 0 then [] else dueAt c s e := by
  cases e with
  | clock sec nanosec => exact (ite_self _).symm
  | setVehicleFlag value => exact (ite_self _).symm
  | gps msg => exact (saved_gpsCallback c s msg).trans (ite_self _).symm
  | flagTick =>
      simp only [step, dueAt]
      rcases publishVehicleFlag_cases c s with ⟨-, hidle, hr⟩ | ⟨hb, ha, hr⟩ | ⟨-, he, hr⟩
      · rw [hr]
        simp [hidle, saved, savedLaps]
      · obtain ⟨k₀, -, hk⟩ := h.of_active ha
        rw [hr, saved_endCompetition (s := { s with vehicleFlag := BLACK }) hc
            (hk.of_sameTiming ⟨rfl, rfl, rfl, rfl, rfl⟩)]
        simp [hb, ha]
      · rw [hr]
        have hnot : ¬ (s.competitionActive = true ∧ flagOfParam s.vehicleFlagParam = BLACK ∧
            s.lapTimes ≠ [] ∧ c.targetLaps ≤ s.lapTimes.length) := fun h => he ⟨h.2.1, h.1⟩
        simp [hnot, saved, savedLaps]

/-- Everything that is due in the course of the run `es` from `s`, in order. -/
def due (c : Config R) : State R → List (Event R) → List (List R)
  | s, [] => dueAtShutdown s
  | s, e :: es =>
      match (step c s e).stop with
      | none => dueAt c s e ++ due c (step c s e).state es
      | some _ => dueAt c s e ++ dueAtShutdown (step c s e).state

/-- What a node that is in the state `s` writes while it handles `es` and shuts down. -/
def written (c : Config R) (s : State R) (es : List (Event R)) : List (List R) :=
  saved (((timerNode c).spin s es).outputs ++ shutdown ((timerNode c).spin s es).state)

/-- Two lists put together from parts, none of which exceeds its counterpart, agree exactly when
their parts do. -/
theorem append_eq_append_iff_of_length_le {α : Type*} {a b as bs : List α}
    (h : a.length ≤ b.length) (hs : as.length ≤ bs.length) :
    a ++ as = b ++ bs ↔ a = b ∧ as = bs := by
  refine ⟨?_, ?_⟩
  · intro heq
    have hlen : a.length = b.length := by
      have hl := congrArg List.length heq
      rw [List.length_append, List.length_append] at hl
      omega
    exact List.append_inj heq hlen
  · rintro ⟨rfl, rfl⟩
    rfl

theorem length_ite_nil_le {α : Type*} (p : Prop) [Decidable p] (l : List α) :
    (if p then [] else l).length ≤ l.length := by
  split
  · exact Nat.zero_le _
  · exact le_rfl

theorem ite_nil_eq_iff {α : Type*} (p : Prop) [Decidable p] (l : List α) :
    (if p then [] else l) = l ↔ (l ≠ [] → ¬ p) := by
  by_cases hp : p <;> simp [hp, eq_comm]

/-- The results that are due in the run can all be saved: no competition that ends with results due
started at time zero, and one that is still active at shutdown has an end time. -/
def Savable (c : Config R) (s : State R) (es : List (Event R)) : Prop :=
  (timerNode c).EachStep s es (fun s e => dueAt c s e ≠ [] → ¬ s.startTime = some 0) ∧
    (dueAtShutdown ((timerNode c).spin s es).state ≠ [] →
      ¬ (((timerNode c).spin s es).state.startTime = some 0 ∨
        ((timerNode c).spin s es).state.endTime = none))

/-! Each of the three goes from one event to the rest of the run, or ends with the shutdown. -/

theorem due_cons_done (c : Config R) {s : State R} {e : Event R} (es : List (Event R))
    (hd : (step c s e).stop = none) :
    due c s (e :: es) = dueAt c s e ++ due c (step c s e).state es := by
  rw [due, hd]

theorem due_cons_halt (c : Config R) {s : State R} {e : Event R} (es : List (Event R)) {why : PyError}
    (hd : (step c s e).stop = some why) :
    due c s (e :: es) = dueAt c s e ++ dueAtShutdown (step c s e).state := by
  rw [due, hd]

theorem written_cons_done (c : Config R) {s : State R} {e : Event R} (es : List (Event R))
    (hd : (step c s e).stop = none) :
    written c s (e :: es) = saved (step c s e).outputs ++ written c (step c s e).state es := by
  rw [written, (timerNode c).spin_cons_done es hd, List.append_assoc, saved_append]
  rfl

theorem written_cons_halt (c : Config R) {s : State R} {e : Event R} (es : List (Event R))
    {why : PyError} (hd : (step c s e).stop = some why) :
    written c s (e :: es) = saved (step c s e).outputs ++ saved (shutdown (step c s e).state) := by
  rw [written, (timerNode c).spin_cons_halt es hd, saved_append]
  rfl

theorem savable_cons_done (c : Config R) {s : State R} {e : Event R} (es : List (Event R))
    (hd : (step c s e).stop = none) :
    Savable c s (e :: es) ↔
      (dueAt c s e ≠ [] → ¬ s.startTime = some 0) ∧ Savable c (step c s e).state es := by
  rw [Savable, Savable, (timerNode c).spin_cons_done es hd, Machine.eachStep_cons, and_assoc]
  exact and_congr_right fun _ => and_congr_left fun _ => ⟨fun h => h hd, fun h _ => h⟩

theorem savable_cons_halt (c : Config R) {s : State R} {e : Event R} (es : List (Event R))
    {why : PyError} (hd : (step c s e).stop = some why) :
    Savable c s (e :: es) ↔
      (dueAt c s e ≠ [] → ¬ s.startTime = some 0) ∧
        (dueAtShutdown (step c s e).state ≠ [] →
          ¬ ((step c s e).state.startTime = some 0 ∨ (step c s e).state.endTime = none)) := by
  have hrest : ∀ P : Prop, (((timerNode c).step s e).stop = none → P) ↔ True := by
    intro P
    refine iff_true_intro fun h => ?_
    exact absurd (hd.symm.trans h) (by simp)
  rw [Savable, (timerNode c).spin_cons_halt es hd, Machine.eachStep_cons, hrest, and_true]
  rfl

/-- What is written never exceeds what is due, and it is what is due when all of it can be saved. -/
theorem written_eq_due_iff_from {c : Config R} (hc : 1 ≤ c.targetLaps) (es : List (Event R))
    {s : State R} (hI : ∃ k, Accounted c s k) :
    (written c s es).length ≤ (due c s es).length ∧
      (written c s es = due c s es ↔ Savable c s es) := by
  induction es generalizing s with
  | nil =>
      obtain ⟨_, h⟩ := hI
      have hw : written c s [] = saved (shutdown s) := rfl
      rw [hw, saved_shutdown h, due]
      refine ⟨length_ite_nil_le _ _, (ite_nil_eq_iff _ _).trans ?_⟩
      exact ⟨fun h => ⟨(timerNode c).eachStep_nil, h⟩, fun h => h.2⟩
  | cons e es ih =>
      obtain ⟨_, h⟩ := hI
      obtain ⟨k', -, hk'⟩ := step_accounted hc h e
      have hle := length_ite_nil_le (s.startTime = some 0) (dueAt c s e)
      cases hd : (step c s e).stop with
      | none =>
          obtain ⟨hrest, hiff⟩ := ih ⟨k', hk'⟩
          rw [written_cons_done c es hd, saved_step hc h e, due_cons_done c es hd,
            savable_cons_done c es hd]
          refine ⟨?_, ?_⟩
          · rw [List.length_append, List.length_append]
            omega
          · rw [append_eq_append_iff_of_length_le hle hrest, ite_nil_eq_iff, hiff]
      | some why =>
          have hle' := length_ite_nil_le
            ((step c s e).state.startTime = some 0 ∨ (step c s e).state.endTime = none)
            (dueAtShutdown (step c s e).state)
          rw [written_cons_halt c es hd, saved_step hc h e, saved_shutdown hk',
            due_cons_halt c es hd, savable_cons_halt c es hd]
          refine ⟨?_, ?_⟩
          · rw [List.length_append, List.length_append]
            omega
          · rw [append_eq_append_iff_of_length_le hle hle', ite_nil_eq_iff, ite_nil_eq_iff]

/-- **Saved results.**  For every run of `main`, the lap times that reach the CSV-writing part are
those of the competitions whose results are due, each once and in order, if and only if the results
that are due can be saved. -/
theorem written_eq_due_iff (c : Config R) (hc : 1 ≤ c.targetLaps) (es : List (Event R)) :
    saved (main c es) = due c (init c) es ↔ Savable c (init c) es :=
  (written_eq_due_iff_from hc es ⟨none, init_accounted c⟩).2

/-! ### Results that are lost -/

/-- A race of one lap that is started at the simulation time zero. -/
def raceFromZero : List (Event ℚ) :=
  [.clock 0 0, .setVehicleFlag "green", .flagTick, onTheLine, .clock 30 0, onTheLine, .flagTick]

/-- A race of two laps that is shut down after the first. -/
def raceShutDown : List (Event ℚ) :=
  [.clock 1 0, .setVehicleFlag "green", .flagTick, onTheLine, .clock 31 0, onTheLine]

theorem raceFromZero_lost : saved (main (oval 1) raceFromZero) = [] ∧
    due (oval 1) (init (oval 1)) raceFromZero = [[30]] := by
  constructor <;> decide +kernel

theorem raceShutDown_lost : saved (main (oval 2) raceShutDown) = [] ∧
    due (oval 2) (init (oval 2)) raceShutDown = [[30]] := by
  constructor <;> decide +kernel

theorem raceFromZero_not_savable : ¬ Savable (oval 1) (init (oval 1)) raceFromZero := by
  rw [← written_eq_due_iff (oval 1) (by decide), raceFromZero_lost.1, raceFromZero_lost.2]
  simp

/-- Due results are lost on both paths to `save_results`. -/
theorem results_lost :
    ¬ (∀ es, saved (main (oval 1) es) = due (oval 1) (init (oval 1)) es) ∧
      ¬ (∀ es, saved (main (oval 2) es) = due (oval 2) (init (oval 2)) es) := by
  refine ⟨?_, ?_⟩
  · intro h
    have heq := h raceFromZero
    rw [raceFromZero_lost.1, raceFromZero_lost.2] at heq
    cases heq
  · intro h
    have heq := h raceShutDown
    rw [raceShutDown_lost.1, raceShutDown_lost.2] at heq
    cases heq

end Runs

end HitchOpen.CompetitionTimer
