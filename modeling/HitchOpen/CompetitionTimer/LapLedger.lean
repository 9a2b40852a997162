import HitchOpen.CompetitionTimer.TimerNode
import HitchOpen.Library.Gaps

/-!
# The lap ledger that the timer keeps

What the timer is for: it keeps, for the competition under way, the time of the green flag and the
times at which the finish line was crossed.  A `Ledger` is just that, and the lap times are a function
of it: the first lap runs from the green flag to the second crossing, each later lap from one crossing
to the next.

The node spreads a ledger over five attributes that three callbacks write.  `Represents` says which
ledger a state stands for, and `step_accounted` that every step of the node either leaves the ledger
alone, opens a new one or adds one crossing to it.  What can be read off a ledger therefore holds
along every run.
-/

namespace HitchOpen.CompetitionTimer

open HitchOpen.EventMachine HitchOpen.Messages HitchOpen.Runtime HitchOpen.VehicleFlag HitchOpen.Gaps

/-- The green flag and the crossings of one competition, in order.  There is no start time when the
competition was opened before the clock was known. -/
structure Ledger (R : Type*) where
  startTime : Option R
  crossings : List R

namespace Ledger

variable {R : Type*} [Field R]

/-- A competition opened at `startTime`. -/
def opened (startTime : Option R) : Ledger R := ⟨startTime, []⟩

def cross (k : Ledger R) (t : R) : Ledger R := ⟨k.startTime, k.crossings ++ [t]⟩

/-- The laps completed so far.  The first crossing completes none. -/
def lapTimes (k : Ledger R) : List R :=
  match k.startTime with
  | none => []
  | some startTime => gaps startTime k.crossings.tail

theorem lapTimes_length {k : Ledger R} {t₀ : R} (h : k.startTime = some t₀) :
    k.lapTimes.length = k.crossings.length - 1 := by
  rw [lapTimes, h]
  simp only [gaps_length, List.length_tail]

/-- The lap times add up to the time from the green flag to the last crossing. -/
theorem lapTimes_sum {k : Ledger R} {t₀ : R} (h : k.startTime = some t₀)
    (h2 : 2 ≤ k.crossings.length) :
    ∃ last, k.crossings.getLast? = some last ∧ k.lapTimes.sum = last - t₀ := by
  obtain ⟨start, crossings⟩ := k
  cases crossings with
  | nil => simp at h2
  | cons first rest =>
      refine ⟨latest first rest, ?_, ?_⟩
      · rw [List.getLast?_cons]
        rfl
      · have hrest : rest ≠ [] := by
          rintro rfl
          simp at h2
        obtain ⟨us, u, rfl⟩ := List.eq_nil_or_concat rest |>.resolve_left hrest
        simp only at h
        rw [lapTimes, h]
        simp only [List.tail_cons, gaps_sum, List.concat_eq_append, latest_concat]

/-- A crossing after the first one adds a lap, measured from the green flag for the first lap and
from the crossing before for every later one. -/
theorem lapTimes_cross {k : Ledger R} {t₀ last : R} (h : k.startTime = some t₀)
    (hlast : k.crossings.getLast? = some last) (t : R) :
    (k.cross t).lapTimes =
      k.lapTimes ++ [if k.crossings.length = 1 then t - t₀ else t - last] := by
  obtain ⟨start, crossings⟩ := k
  simp only at h hlast
  subst h
  cases crossings with
  | nil => simp at hlast
  | cons first rest =>
      simp only [cross, lapTimes, List.cons_append, List.tail_cons, gaps_concat]
      cases rest with
      | nil => simp
      | cons u us =>
          have hl : latest t₀ (u :: us) = last := by
            rw [List.getLast?_cons_cons] at hlast
            simp [latest, hlast]
          simp [hl]

theorem lapTimes_of_length_le_one {k : Ledger R} (h : k.crossings.length ≤ 1) :
    k.lapTimes = [] := by
  have htail : k.crossings.tail = [] := by
    apply List.eq_nil_of_length_eq_zero
    rw [List.length_tail]
    omega
  cases hs : k.startTime with
  | none => simp only [lapTimes, hs]
  | some t₀ => simp only [lapTimes, hs, htail, gaps_nil]

end Ledger

/-! ### What each callback can do -/

section Attributes

variable {R : Type*}

/-- The state in which a flag tick that starts a competition leaves the node. -/
def started (s : State R) : State R :=
  { s with
    vehicleFlag := flagOfParam s.vehicleFlagParam
    competitionActive := true
    startTime := s.currentTime
    lastCrossingTime := none
    lapTimes := []
    currentLap := some 0 }

@[simp] theorem recordLap_startTime (c : Config R) (s : State R) (n : ℕ) (t lap : R) :
    (recordLap c s n t lap).startTime = s.startTime := by
  rw [recordLap]
  split <;> rfl

@[simp] theorem recordLap_lapTimes (c : Config R) (s : State R) (n : ℕ) (t lap : R) :
    (recordLap c s n t lap).lapTimes = s.lapTimes ++ [lap] := by
  rw [recordLap]
  split <;> rfl

theorem recordLap_endTime (c : Config R) (s : State R) (n : ℕ) (t lap : R) :
    (recordLap c s n t lap).endTime = if c.targetLaps ≤ n then some t else s.endTime := by
  rw [recordLap]
  by_cases h : c.targetLaps ≤ n <;> simp [h]

@[simp] theorem recordLap_competitionActive (c : Config R) (s : State R) (n : ℕ) (t lap : R) :
    (recordLap c s n t lap).competitionActive = s.competitionActive := by
  rw [recordLap]
  split <;> rfl

@[simp] theorem recordLap_currentTime (c : Config R) (s : State R) (n : ℕ) (t lap : R) :
    (recordLap c s n t lap).currentTime = s.currentTime := by
  rw [recordLap]
  split <;> rfl

/-- The attributes that make up the ledger. -/
structure SameTiming (s s' : State R) : Prop where
  startTime : s'.startTime = s.startTime
  endTime : s'.endTime = s.endTime
  lastCrossingTime : s'.lastCrossingTime = s.lastCrossingTime
  lapTimes : s'.lapTimes = s.lapTimes
  currentLap : s'.currentLap = s.currentLap

end Attributes

section Counting

variable {R : Type*} [Field R]

/-- Before the first green flag there is no lap counter to add to. -/
theorem countCrossing_unopened (c : Config R) {s : State R} (hn : s.currentLap = none) (t : R) :
    countCrossing c s t = .halt s [] .attributeError := by
  simp only [countCrossing, hn]

/-- The first crossing of a competition only remembers when it happened. -/
theorem countCrossing_first (c : Config R) {s : State R} {n : ℕ} (hn : s.currentLap = some n)
    (hlast : s.lastCrossingTime = none) (t : R) :
    countCrossing c s t =
      .done { s with currentLap := some (n + 1), lastCrossingTime := some t } [] := by
  simp only [countCrossing, hn, hlast]

/-- Every later crossing records the lap that `lapTime` measures, if it can be measured. -/
theorem countCrossing_lap (c : Config R) {s : State R} {n : ℕ} {last lap : R}
    (hn : s.currentLap = some n) (hlast : s.lastCrossingTime = some last) (t : R)
    (hlap : lapTime s n t last = .ok lap) :
    countCrossing c s t =
      .done { recordLap c s n t lap with
        currentLap := some (n + 1), lastCrossingTime := some t } [.lapTime lap] := by
  simp only [countCrossing, hn, hlast, hlap]

theorem countCrossing_error (c : Config R) {s : State R} {n : ℕ} {last : R} {e : PyError}
    (hn : s.currentLap = some n) (hlast : s.lastCrossingTime = some last) (t : R)
    (hlap : lapTime s n t last = .error e) : countCrossing c s t = .halt s [] e := by
  simp only [countCrossing, hn, hlast, hlap]

end Counting

section Flags

variable {R : Type*} [Field R] [LinearOrder R]

theorem flagOfParam_named (value : String) :
    isGreen (flagOfParam value) = true ∨ flagOfParam value = RED ∨ flagOfParam value = BLACK := by
  rw [flagOfParam]
  split <;> decide

theorem flagToString_flagOfParam (value : String) : flagToString (flagOfParam value) ≠ none := by
  intro h
  obtain ⟨hg, hr, hb⟩ := flagToString_eq_none_iff.mp h
  rcases flagOfParam_named value with h' | h' | h'
  · rw [h'] at hg
    cases hg
  · exact hr h'
  · exact hb h'

/-- A green flag with no competition active starts one. -/
theorem publishVehicleFlag_start (c : Config R) {s : State R}
    (hg : isGreen (flagOfParam s.vehicleFlagParam) = true) (ha : s.competitionActive = false) :
    publishVehicleFlag c s = .done (started s) [.flag (flagOfParam s.vehicleFlagParam)] := by
  simp only [publishVehicleFlag, hg, ha, if_true, Bool.false_eq_true, if_false, started]

/-- A black flag ends the active competition. -/
theorem publishVehicleFlag_end (c : Config R) {s : State R}
    (hb : flagOfParam s.vehicleFlagParam = BLACK) (ha : s.competitionActive = true) :
    publishVehicleFlag c s = endCompetition c { s with vehicleFlag := BLACK } [.flag BLACK] := by
  have hname : flagToString BLACK = some "BLACK" := by decide
  simp only [publishVehicleFlag, hb, ha, isGreen_black, hname, Bool.false_eq_true, if_false, if_true]

/-- Any other tick only publishes the flag. -/
theorem publishVehicleFlag_keep (c : Config R) {s : State R}
    (hs : ¬ (isGreen (flagOfParam s.vehicleFlagParam) = true ∧ s.competitionActive = false))
    (he : ¬ (flagOfParam s.vehicleFlagParam = BLACK ∧ s.competitionActive = true)) :
    publishVehicleFlag c s =
      .done { s with vehicleFlag := flagOfParam s.vehicleFlagParam }
        [.flag (flagOfParam s.vehicleFlagParam)] := by
  obtain ⟨name, hname⟩ := Option.ne_none_iff_exists'.mp (flagToString_flagOfParam s.vehicleFlagParam)
  cases ha : s.competitionActive with
  | false =>
      have hg : isGreen (flagOfParam s.vehicleFlagParam) = false := by simpa [ha] using hs
      simp only [publishVehicleFlag, hg, ha, Bool.false_eq_true, if_false]
  | true =>
      have hb : flagOfParam s.vehicleFlagParam ≠ BLACK := by simpa [ha] using he
      simp only [publishVehicleFlag, ha, hname, hb, if_true, if_false, ite_self]

/-- **What a flag tick does.**  It opens a competition, ends one, or only publishes the flag. -/
theorem publishVehicleFlag_cases (c : Config R) (s : State R) :
    (isGreen (flagOfParam s.vehicleFlagParam) = true ∧ s.competitionActive = false ∧
      publishVehicleFlag c s = .done (started s) [.flag (flagOfParam s.vehicleFlagParam)]) ∨
    (flagOfParam s.vehicleFlagParam = BLACK ∧ s.competitionActive = true ∧
      publishVehicleFlag c s = endCompetition c { s with vehicleFlag := BLACK } [.flag BLACK]) ∨
    (¬ (isGreen (flagOfParam s.vehicleFlagParam) = true ∧ s.competitionActive = false) ∧
      ¬ (flagOfParam s.vehicleFlagParam = BLACK ∧ s.competitionActive = true) ∧
      publishVehicleFlag c s = .done { s with vehicleFlag := flagOfParam s.vehicleFlagParam }
        [.flag (flagOfParam s.vehicleFlagParam)]) := by
  by_cases hs : isGreen (flagOfParam s.vehicleFlagParam) = true ∧ s.competitionActive = false
  · exact .inl ⟨hs.1, hs.2, publishVehicleFlag_start c hs.1 hs.2⟩
  · by_cases he : flagOfParam s.vehicleFlagParam = BLACK ∧ s.competitionActive = true
    · exact .inr (.inl ⟨he.1, he.2, publishVehicleFlag_end c he.1 he.2⟩)
    · exact .inr (.inr ⟨hs, he, publishVehicleFlag_keep c hs he⟩)

theorem endCompetition_state (c : Config R) (s : State R) (published : List (Output R)) :
    (endCompetition c s published).state = { s with competitionActive := false } := by
  rw [endCompetition]
  cases s.currentLap with
  | none => rfl
  | some currentLap =>
      dsimp only
      split
      · rfl
      · split <;> rfl

/-- A tick changes the lap counter and the lap times only to reset them. -/
theorem publishVehicleFlag_laps (c : Config R) (s : State R) :
    ((publishVehicleFlag c s).state.currentLap = s.currentLap ∧
      (publishVehicleFlag c s).state.lapTimes = s.lapTimes) ∨
    ((publishVehicleFlag c s).state.currentLap = some 0 ∧
      (publishVehicleFlag c s).state.lapTimes = []) := by
  rcases publishVehicleFlag_cases c s with ⟨-, -, hr⟩ | ⟨-, -, hr⟩ | ⟨-, -, hr⟩
  · rw [hr]
    exact .inr ⟨rfl, rfl⟩
  · rw [hr, endCompetition_state]
    exact .inl ⟨rfl, rfl⟩
  · rw [hr]
    exact .inl ⟨rfl, rfl⟩

end Flags

section Fixes

variable {R : Type*} [Field R] [LinearOrder R] [Sqrt R]

/-- A fix reaches `check_finish_line_crossing` when a competition is active and the clock is known. -/
def Processed (s : State R) (now : R) : Prop :=
  s.competitionActive = true ∧ s.currentTime = some now

/-- The fix `msg` is detected as a crossing at the clock reading `now`. -/
def Detected (c : Config R) (s : State R) (msg : NavSatFix R) (now : R) : Prop :=
  Processed s now ∧
    checkFinishLineCrossing c s.lastCrossingTime now (localPosition c msg) = true

theorem gpsCallback_cases (c : Config R) (s : State R) (msg : NavSatFix R) :
    ((∀ now, ¬ Detected c s msg now) ∧ gpsCallback c s msg = .done s []) ∨
    (∃ now, Detected c s msg now ∧ gpsCallback c s msg = countCrossing c s now) := by
  unfold gpsCallback Detected Processed
  cases ha : s.competitionActive
  · simp
  · cases ht : s.currentTime with
    | none => simp
    | some now =>
        cases hc : checkFinishLineCrossing c s.lastCrossingTime now (localPosition c msg)
        · refine .inl ⟨?_, by simp [hc]⟩
          rintro t ⟨⟨-, h⟩, h'⟩
          cases h
          rw [hc] at h'
          cases h'
        · exact .inr ⟨now, ⟨⟨rfl, rfl⟩, hc⟩, by simp [hc]⟩

end Fixes

/-! ### The refinement -/

section Refinement

variable {R : Type*} [Field R]

/-- The state `s` keeps the ledger `k`. -/
structure Represents (c : Config R) (s : State R) (k : Ledger R) : Prop where
  startTime : s.startTime = k.startTime
  currentLap : s.currentLap = some k.crossings.length
  lastCrossingTime : s.lastCrossingTime = k.crossings.getLast?
  lapTimes : s.lapTimes = k.lapTimes
  /-- Without a start time the second crossing raises, so there is never more than one. -/
  unstarted : k.startTime = none → k.crossings.length ≤ 1
  endTime : c.targetLaps < k.crossings.length → s.endTime = k.crossings.getLast?

/-- Before the first green flag there is no ledger; from then on there is one. -/
inductive Accounted (c : Config R) (s : State R) : Option (Ledger R) → Prop
  | idle : s.competitionActive = false → s.currentLap = none → s.lapTimes = [] →
      s.startTime = none → Accounted c s none
  | keeps {k : Ledger R} : Represents c s k → Accounted c s (some k)

theorem Represents.of_sameTiming {c : Config R} {s s' : State R} {k : Ledger R}
    (h : Represents c s k) (hs : SameTiming s s') : Represents c s' k where
  startTime := hs.startTime.trans h.startTime
  currentLap := hs.currentLap.trans h.currentLap
  lastCrossingTime := hs.lastCrossingTime.trans h.lastCrossingTime
  lapTimes := hs.lapTimes.trans h.lapTimes
  unstarted := h.unstarted
  endTime hk := hs.endTime.trans (h.endTime hk)

/-- One lap fewer than crossings, with or without a start time. -/
theorem Represents.lapTimes_length {c : Config R} {s : State R} {k : Ledger R}
    (h : Represents c s k) : s.lapTimes.length = k.crossings.length - 1 := by
  rw [h.lapTimes]
  cases hk : k.startTime with
  | none =>
      have h1 := h.unstarted hk
      rw [Ledger.lapTimes_of_length_le_one h1, List.length_nil]
      omega
  | some t₀ => exact Ledger.lapTimes_length hk

theorem Accounted.of_sameTiming {c : Config R} {s s' : State R} {k : Option (Ledger R)}
    (h : Accounted c s k) (hs : SameTiming s s')
    (ha : s'.competitionActive = true → s.competitionActive = true) : Accounted c s' k := by
  cases h with
  | idle hi hl ht hst =>
      refine .idle ?_ (hs.currentLap.trans hl) (hs.lapTimes.trans ht) (hs.startTime.trans hst)
      by_contra hc
      rw [ha (by simpa using hc)] at hi
      cases hi
  | keeps hr => exact .keeps (hr.of_sameTiming hs)

/-- An active competition has a ledger. -/
theorem Accounted.of_active {c : Config R} {s : State R} {k : Option (Ledger R)}
    (h : Accounted c s k) (ha : s.competitionActive = true) : ∃ k₀, k = some k₀ ∧ Represents c s k₀ := by
  cases h with
  | idle hi _ _ _ =>
      rw [ha] at hi
      cases hi
  | @keeps k₀ hk => exact ⟨k₀, rfl, hk⟩

theorem started_represents (c : Config R) (s : State R) :
    Represents c (started s) (.opened s.currentTime) where
  startTime := rfl
  currentLap := rfl
  lastCrossingTime := rfl
  lapTimes := by simp [started, Ledger.opened, Ledger.lapTimes_of_length_le_one]
  unstarted _ := Nat.zero_le 1
  endTime hk := absurd hk (Nat.not_lt_zero _)

/-- The first crossing enters the ledger without a lap. -/
theorem Represents.cross_first {c : Config R} (hc : 1 ≤ c.targetLaps) {s : State R} {k : Ledger R}
    (h : Represents c s k) (hlast : s.lastCrossingTime = none) (t : R) :
    Represents c { s with
      currentLap := some (k.crossings.length + 1), lastCrossingTime := some t } (k.cross t) := by
  have hnil : k.crossings = [] := List.getLast?_eq_none_iff.mp (h.lastCrossingTime ▸ hlast)
  have hone : (k.cross t).crossings = [t] := by simp [Ledger.cross, hnil]
  have hlaps : k.lapTimes = [] := Ledger.lapTimes_of_length_le_one (by simp [hnil])
  have hlaps' : (k.cross t).lapTimes = [] := Ledger.lapTimes_of_length_le_one (by simp [hone])
  exact {
    startTime := h.startTime
    currentLap := by simp [Ledger.cross]
    lastCrossingTime := by simp [hone]
    lapTimes := by
      rw [hlaps', ← hlaps]
      exact h.lapTimes
    unstarted := by simp [hone]
    endTime := fun hk => by
      rw [hone, List.length_singleton] at hk
      omega }

/-- A later crossing enters it with the lap that it completes. -/
theorem Represents.cross_lap {c : Config R} {s : State R} {k : Ledger R} (h : Represents c s k)
    {t₀ last : R} (hst : k.startTime = some t₀) (hl : k.crossings.getLast? = some last) (t : R) :
    Represents c { recordLap c s k.crossings.length t
        (if k.crossings.length = 1 then t - t₀ else t - last) with
      currentLap := some (k.crossings.length + 1), lastCrossingTime := some t } (k.cross t) where
  startTime := by simpa [Ledger.cross] using h.startTime
  currentLap := by simp [Ledger.cross]
  lastCrossingTime := by simp [Ledger.cross]
  lapTimes := by
    rw [Ledger.lapTimes_cross hst hl, ← h.lapTimes]
    exact recordLap_lapTimes ..
  unstarted hk := by
    rw [Ledger.cross, hst] at hk
    cases hk
  endTime hk := by
    simp only [Ledger.cross, List.length_append, List.length_singleton] at hk
    simp only [recordLap_endTime, if_pos (Nat.le_of_lt_succ hk), Ledger.cross, List.getLast?_concat]

/-- Counting a crossing adds it to the ledger, unless it is the second one of a competition that has
no start time. -/
theorem countCrossing_represents {c : Config R} (hc : 1 ≤ c.targetLaps) {s : State R} {k : Ledger R}
    (h : Represents c s k) (t : R) :
    (k.startTime = none ∧ k.crossings.length = 1 ∧ countCrossing c s t = .halt s [] .typeError) ∨
    ∃ s' out, countCrossing c s t = .done s' out ∧ Represents c s' (k.cross t) ∧
      s'.competitionActive = s.competitionActive := by
  cases hlast : s.lastCrossingTime with
  | none =>
      right
      exact ⟨_, _, countCrossing_first c h.currentLap hlast t, h.cross_first hc hlast t, rfl⟩
  | some last =>
      have hl : k.crossings.getLast? = some last := h.lastCrossingTime ▸ hlast
      have hpos : 0 < k.crossings.length := by
        refine List.length_pos_iff.mpr fun hnil => ?_
        simp [hnil] at hl
      cases hst : k.startTime with
      | none =>
          have hone : k.crossings.length = 1 := by
            have := h.unstarted hst
            omega
          refine .inl ⟨rfl, hone, countCrossing_error c h.currentLap hlast t ?_⟩
          simp only [lapTime, hone, h.startTime.trans hst, if_true]
      | some t₀ =>
          right
          have hlap : lapTime s k.crossings.length t last =
              .ok (if k.crossings.length = 1 then t - t₀ else t - last) := by
            simp only [lapTime, h.startTime.trans hst]
            split <;> rfl
          exact ⟨_, _, countCrossing_lap c h.currentLap hlast t hlap, h.cross_lap hst hl t, by simp⟩

/-- What a step may do to the ledger. -/
inductive LedgerStep : Option (Ledger R) → Option (Ledger R) → Prop
  | keeps (k : Option (Ledger R)) : LedgerStep k k
  | opens (k : Option (Ledger R)) (t : Option R) : LedgerStep k (some (.opened t))
  | crosses (k : Ledger R) (t : R) : LedgerStep (some k) (some (k.cross t))

theorem init_accounted (c : Config R) : Accounted c (init c) none := .idle rfl rfl rfl rfl

variable [LinearOrder R]

theorem publishVehicleFlag_accounted {c : Config R} {s : State R} {k : Option (Ledger R)}
    (h : Accounted c s k) :
    ∃ k', LedgerStep k k' ∧ Accounted c (publishVehicleFlag c s).state k' := by
  rcases publishVehicleFlag_cases c s with ⟨-, -, hr⟩ | ⟨-, -, hr⟩ | ⟨-, -, hr⟩
  · rw [hr]
    exact ⟨_, .opens k s.currentTime, .keeps (started_represents c s)⟩
  · rw [hr, endCompetition_state]
    exact ⟨k, .keeps k, h.of_sameTiming ⟨rfl, rfl, rfl, rfl, rfl⟩ (fun ha => by cases ha)⟩
  · rw [hr]
    exact ⟨k, .keeps k, h.of_sameTiming ⟨rfl, rfl, rfl, rfl, rfl⟩ id⟩

variable [Sqrt R]

theorem gpsCallback_accounted {c : Config R} (hc : 1 ≤ c.targetLaps) {s : State R}
    {k : Option (Ledger R)} (h : Accounted c s k) (msg : NavSatFix R) :
    ∃ k', LedgerStep k k' ∧ Accounted c (gpsCallback c s msg).state k' := by
  rcases gpsCallback_cases c s msg with ⟨-, hr⟩ | ⟨now, hdet, hr⟩
  · rw [hr]
    exact ⟨k, .keeps k, h⟩
  · rw [hr]
    obtain ⟨k₀, rfl, hk⟩ := h.of_active hdet.1.1
    rcases countCrossing_represents hc hk now with ⟨-, -, herr⟩ | ⟨s', out, hdone, hk', -⟩
    · rw [herr]
      exact ⟨_, .keeps _, .keeps hk⟩
    · rw [hdone]
      exact ⟨_, .crosses _ now, .keeps hk'⟩

/-- **Every step refines a ledger step.** -/
theorem step_accounted {c : Config R} (hc : 1 ≤ c.targetLaps) {s : State R} {k : Option (Ledger R)}
    (h : Accounted c s k) (e : Event R) :
    ∃ k', LedgerStep k k' ∧ Accounted c (step c s e).state k' := by
  cases e with
  | gps msg => exact gpsCallback_accounted hc h msg
  | clock sec nanosec => exact ⟨k, .keeps k, h.of_sameTiming ⟨rfl, rfl, rfl, rfl, rfl⟩ id⟩
  | setVehicleFlag value => exact ⟨k, .keeps k, h.of_sameTiming ⟨rfl, rfl, rfl, rfl, rfl⟩ id⟩
  | flagTick => exact publishVehicleFlag_accounted h

/-- Every state that a run reaches keeps a ledger, or no competition has been started yet. -/
theorem run_accounted {c : Config R} (hc : 1 ≤ c.targetLaps) {es : List (Event R)} {s : State R}
    (h : (timerNode c).runFrom (init c) es = some s) : ∃ k, Accounted c s k :=
  (timerNode c).runFrom_induct (P := fun s => ∃ k, Accounted c s k) ⟨none, init_accounted c⟩
    (fun _ e ⟨_, hk⟩ _ => (step_accounted hc hk e).imp fun _ h => h.2) h

end Refinement

end HitchOpen.CompetitionTimer
