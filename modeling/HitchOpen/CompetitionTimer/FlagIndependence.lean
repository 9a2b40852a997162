import HitchOpen.CompetitionTimer.LapLedger
import HitchOpen.Library.Erasure

/-!
# Pausing does not affect the timing

While a competition is active, only a black flag touches what the timer measures with.  Two states
are in the `SameRace` when they differ in the flag and its parameter at most.  Setting the parameter
and every flag tick that does not read black are invisible to this relation, and the clock and GPS
callbacks respect it, although the GPS callback writes the parameter itself.  So whatever the operator
shows, the timing of a run depends on its clock messages and GPS fixes alone.
-/

namespace HitchOpen.CompetitionTimer

open HitchOpen.EventMachine HitchOpen.Messages HitchOpen.Runtime HitchOpen.VehicleFlag

section Race

variable {R : Type*}

/-- `t` is `s`, with a competition active, up to the flag and its parameter. -/
def SameRace (s t : State R) : Prop :=
  s.competitionActive = true ∧
    ∃ param flag, t = { s with vehicleFlagParam := param, vehicleFlag := flag }

theorem SameRace.refl {s : State R} (h : s.competitionActive = true) : SameRace s s :=
  ⟨h, s.vehicleFlagParam, s.vehicleFlag, rfl⟩

theorem SameRace.symm (s t : State R) (h : SameRace s t) : SameRace t s := by
  obtain ⟨ha, param, flag, rfl⟩ := h
  exact ⟨ha, s.vehicleFlagParam, s.vehicleFlag, rfl⟩

theorem SameRace.trans (s t u : State R) (hst : SameRace s t) (htu : SameRace t u) :
    SameRace s u := by
  obtain ⟨ha, _, _, rfl⟩ := hst
  obtain ⟨-, param, flag, rfl⟩ := htu
  exact ⟨ha, param, flag, rfl⟩

theorem SameRace.sameTiming {s t : State R} (h : SameRace s t) : SameTiming s t := by
  obtain ⟨-, _, _, rfl⟩ := h
  exact ⟨rfl, rfl, rfl, rfl, rfl⟩

/-- A clock message or a GPS fix. -/
def Event.isTiming : Event R → Bool
  | .gps _ => true
  | .clock _ _ => true
  | .setVehicleFlag _ => false
  | .flagTick => false

/-- The event is no tick that reads a parameter value meaning `BLACK`. -/
def AvoidsBlack (s : State R) : Event R → Prop
  | .flagTick => flagOfParam s.vehicleFlagParam ≠ BLACK
  | _ => True

instance (s : State R) : (e : Event R) → Decidable (AvoidsBlack s e)
  | .gps _ => .isTrue trivial
  | .clock _ _ => .isTrue trivial
  | .setVehicleFlag _ => .isTrue trivial
  | .flagTick => inferInstanceAs (Decidable (flagOfParam s.vehicleFlagParam ≠ BLACK))

/-- At the target lap both states get the same flag, before it each keeps its own. -/
theorem recordLap_sameRace (c : Config R) {s t : State R} (h : SameRace s t) (n : ℕ) (now lap : R) :
    SameRace (recordLap c s n now lap) (recordLap c t n now lap) := by
  obtain ⟨ha, param, flag, rfl⟩ := h
  refine ⟨(recordLap_competitionActive c s n now lap).trans ha, ?_⟩
  by_cases hn : n ≥ c.targetLaps
  · exact ⟨"black", BLACK, by simp only [recordLap, if_pos hn]⟩
  · exact ⟨param, flag, by simp only [recordLap, if_neg hn]⟩

variable [Field R]

/-- A crossing is counted alike whatever the flag. -/
theorem countCrossing_sameRace (c : Config R) {s t : State R} (h : SameRace s t) (now : R) :
    (countCrossing c s now).stop = (countCrossing c t now).stop ∧
      SameRace (countCrossing c s now).state (countCrossing c t now).state := by
  have hlap : ∀ n last, lapTime t n now last = lapTime s n now last := by
    obtain ⟨-, _, _, rfl⟩ := h
    exact fun n last => rfl
  have htn : t.currentLap = s.currentLap := h.sameTiming.currentLap
  have htlast : t.lastCrossingTime = s.lastCrossingTime := h.sameTiming.lastCrossingTime
  cases hn : s.currentLap with
  | none =>
      rw [countCrossing_unopened c hn, countCrossing_unopened c (htn.trans hn)]
      exact ⟨rfl, h⟩
  | some n =>
      rw [hn] at htn
      cases hlast : s.lastCrossingTime with
      | none =>
          rw [countCrossing_first c hn hlast, countCrossing_first c htn (htlast.trans hlast)]
          obtain ⟨ha, param, flag, rfl⟩ := h
          exact ⟨rfl, ha, param, flag, rfl⟩
      | some last =>
          rw [hlast] at htlast
          cases hl : lapTime s n now last with
          | error e =>
              rw [countCrossing_error c hn hlast now hl,
                countCrossing_error c htn htlast now ((hlap n last).trans hl)]
              exact ⟨rfl, h⟩
          | ok lap =>
              rw [countCrossing_lap c hn hlast now hl,
                countCrossing_lap c htn htlast now ((hlap n last).trans hl)]
              obtain ⟨ha, param, flag, hrec⟩ := recordLap_sameRace c h n now lap
              refine ⟨rfl, ha, param, flag, ?_⟩
              simp only [Reply.done_state, hrec]

variable [LinearOrder R]

/-- Nobody who looks at the timing can tell that the parameter was set or that a tick read a value
other than black. -/
theorem step_hidden [Sqrt R] (c : Config R) (s t : State R) (e : Event R) (h : SameRace s t)
    (hb : AvoidsBlack s e) (he : e.isTiming = false) :
    (step c s e).stop = none ∧ SameRace (step c s e).state t := by
  obtain ⟨ha, param, flag, rfl⟩ := h
  cases e with
  | gps msg => cases he
  | clock sec nanosec => cases he
  | setVehicleFlag value => exact ⟨rfl, ha, param, flag, rfl⟩
  | flagTick =>
      have hkeep := publishVehicleFlag_keep c (s := s) (by simp [ha]) (fun hc => hb hc.1)
      simp only [step, hkeep, Reply.done_stop, Reply.done_state]
      exact ⟨trivial, ha, param, flag, rfl⟩

theorem step_sameRace [Sqrt R] (c : Config R) (s t : State R) (e : Event R) (h : SameRace s t)
    (_ : AvoidsBlack s e) (he : e.isTiming = true) :
    (step c s e).stop = (step c t e).stop ∧ SameRace (step c s e).state (step c t e).state := by
  cases e with
  | setVehicleFlag value => cases he
  | flagTick => cases he
  | clock sec nanosec =>
      obtain ⟨ha, param, flag, rfl⟩ := h
      exact ⟨rfl, ha, param, flag, rfl⟩
  | gps msg =>
      simp only [step]
      rcases gpsCallback_cases c s msg with ⟨hno, hs⟩ | ⟨now, hdet, hs⟩
      · rcases gpsCallback_cases c t msg with ⟨-, ht⟩ | ⟨now, hdet, -⟩
        · rw [hs, ht]
          exact ⟨rfl, h⟩
        · obtain ⟨-, _, _, rfl⟩ := h
          exact absurd hdet (hno now)
      · have hdet' : Detected c t msg now := by
          obtain ⟨-, _, _, rfl⟩ := h
          exact hdet
        rcases gpsCallback_cases c t msg with ⟨hno, -⟩ | ⟨now', hdet'', ht⟩
        · exact absurd hdet' (hno now)
        · obtain rfl : now' = now := Option.some.inj (hdet''.1.2.symm.trans hdet'.1.2)
          rw [hs, ht]
          exact countCrossing_sameRace c h now'

/-- **Pausing does not affect the timing.**  Two runs from a state with an active competition are
compared after parts of them in which they have handled the same clock messages and GPS fixes.  The
flags of the two are arbitrary, as long as no tick reads black.  Then both are still running or
neither is, and both have measured the same. -/
theorem timing_independent_of_flags [Sqrt R] (c : Config R) (s : State R)
    (hactive : s.competitionActive = true) (es fs : List (Event R))
    (hes : (timerNode c).EachStep s es AvoidsBlack) (hfs : (timerNode c).EachStep s fs AvoidsBlack)
    (pre pre' : List (Event R)) (hpre : pre <+: es) (hpre' : pre' <+: fs)
    (hsame : pre.filter Event.isTiming = pre'.filter Event.isTiming) :
    Option.Rel SameTiming ((timerNode c).runFrom s pre) ((timerNode c).runFrom s pre') := by
  have h := (timerNode c).runFrom_rel_of_filter_eq SameRace.symm SameRace.trans (step_hidden c)
    (step_sameRace c) (.refl hactive) (hes.of_prefix hpre) (hfs.of_prefix hpre') hsame
  generalize (timerNode c).runFrom s pre = r at h ⊢
  generalize (timerNode c).runFrom s pre' = r' at h ⊢
  cases h with
  | none => exact .none
  | some hr => exact .some hr.sameTiming

end Race

/-- The first lap of a race, run behind a red flag and an unknown one. -/
def pausedLap : List (Event ℚ) :=
  [.clock 40 0, .setVehicleFlag "red", .flagTick, .clock 70 0, .setVehicleFlag "wave", .flagTick,
    onTheLine]

def afterFirstCrossing : State ℚ where
  vehicleFlagParam := "green"
  vehicleFlag := GREEN
  competitionActive := true
  startTime := some 1
  endTime := none
  currentTime := some 31
  lastCrossingTime := some 31
  lapTimes := []
  currentLap := some 1

theorem timing_independent_of_flags_pausedLap :
    Option.Rel SameTiming ((timerNode (oval 1)).runFrom afterFirstCrossing pausedLap)
      ((timerNode (oval 1)).runFrom afterFirstCrossing (pausedLap.filter Event.isTiming)) :=
  timing_independent_of_flags (oval 1) afterFirstCrossing rfl pausedLap
    (pausedLap.filter Event.isTiming) (by decide +kernel) (by decide +kernel) pausedLap
    (pausedLap.filter Event.isTiming) (List.prefix_refl _) (List.prefix_refl _)
    (by simp only [List.filter_filter, Bool.and_self])

/-- Both record the lap. -/
example : ((timerNode (oval 1)).runFrom afterFirstCrossing pausedLap).map (·.lapTimes) = some [69] := by
  decide +kernel

end HitchOpen.CompetitionTimer
