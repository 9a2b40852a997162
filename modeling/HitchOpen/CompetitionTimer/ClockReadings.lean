import HitchOpen.CompetitionTimer.LapLedger

/-!
# The clock of the timer

`current_time` is what the last `/clock` message read, and only such a message changes it.  The start
time of a competition is copied from it, so it is missing exactly when the competition is opened before
the first message.
-/

namespace HitchOpen.CompetitionTimer

open HitchOpen.EventMachine HitchOpen.Messages HitchOpen.Runtime HitchOpen.VehicleFlag

variable {R : Type*} [Field R]

/-- What the clock messages of a run read. -/
def clockReadings (es : List (Event R)) : List R :=
  es.filterMap fun
    | .clock sec nanosec => some (sec + nanosec * (1 / 10 ^ 9))
    | _ => none

theorem clockReadings_append (es fs : List (Event R)) :
    clockReadings (es ++ fs) = clockReadings es ++ clockReadings fs := List.filterMap_append

/-- Counting a crossing changes neither the clock nor the start of the competition. -/
theorem countCrossing_times (c : Config R) (s : State R) (now : R) :
    (countCrossing c s now).state.currentTime = s.currentTime ∧
      (countCrossing c s now).state.startTime = s.startTime := by
  cases hn : s.currentLap with
  | none =>
      rw [countCrossing_unopened c hn]
      exact ⟨rfl, rfl⟩
  | some n =>
      cases hlast : s.lastCrossingTime with
      | none =>
          rw [countCrossing_first c hn hlast]
          exact ⟨rfl, rfl⟩
      | some last =>
          cases hlap : lapTime s n now last with
          | error e =>
              rw [countCrossing_error c hn hlast now hlap]
              exact ⟨rfl, rfl⟩
          | ok lap =>
              rw [countCrossing_lap c hn hlast now hlap]
              exact ⟨recordLap_currentTime c s n now lap, recordLap_startTime c s n now lap⟩

variable [LinearOrder R]

theorem publishVehicleFlag_currentTime (c : Config R) (s : State R) :
    (publishVehicleFlag c s).state.currentTime = s.currentTime := by
  rcases publishVehicleFlag_cases c s with ⟨-, -, hr⟩ | ⟨-, -, hr⟩ | ⟨-, -, hr⟩
  · rw [hr]
    rfl
  · rw [hr, endCompetition_state]
  · rw [hr]
    rfl

variable [Sqrt R]

/-- The node's time is the last reading of the clock. -/
theorem run_currentTime {c : Config R} {es : List (Event R)} {s : State R}
    (h : (timerNode c).runFrom (init c) es = some s) :
    s.currentTime = (clockReadings es).getLast? := by
  refine (timerNode c).runFrom_induct_history
    (H := fun es s => s.currentTime = (clockReadings es).getLast?) rfl ?_ h
  intro es s e hs _
  show (step c s e).state.currentTime = _
  rw [clockReadings_append]
  cases e with
  | clock sec nanosec => exact (List.getLast?_concat ..).symm
  | setVehicleFlag value => simpa [clockReadings, step] using hs
  | flagTick => simpa [clockReadings, step, publishVehicleFlag_currentTime] using hs
  | gps msg =>
      have hsame : (gpsCallback c s msg).state.currentTime = s.currentTime := by
        rcases gpsCallback_cases c s msg with ⟨-, hr⟩ | ⟨now, -, hr⟩
        · rw [hr]
          rfl
        · rw [hr]
          exact (countCrossing_times c s now).1
      simpa [clockReadings, step, hsame] using hs

/-- With a clock that does not go back the node's time does not either. -/
theorem currentTime_le {c : Config R} {es fs : List (Event R)} {s t : State R} {now later : R}
    (hclock : (clockReadings (es ++ fs)).Pairwise (· ≤ ·))
    (hs : (timerNode c).runFrom (init c) es = some s)
    (ht : (timerNode c).runFrom (init c) (es ++ fs) = some t) (hnow : s.currentTime = some now)
    (hlater : t.currentTime = some later) : now ≤ later := by
  rw [run_currentTime hs] at hnow
  rw [run_currentTime ht, clockReadings_append] at hlater
  rw [clockReadings_append, List.pairwise_append] at hclock
  cases hfs : (clockReadings fs).getLast? with
  | none =>
      rw [List.getLast?_eq_none_iff.mp hfs, List.append_nil, hnow] at hlater
      exact (Option.some.inj hlater).le
  | some last =>
      rw [List.getLast?_append, hfs] at hlater
      obtain rfl : last = later := Option.some.inj hlater
      exact hclock.2.2 now (List.mem_of_getLast? hnow) last (List.mem_of_getLast? hfs)

end HitchOpen.CompetitionTimer
