import HitchOpen.CompetitionTimer.LapLedger

/-!
# The flag that the timer publishes

Every flag message is the work of a tick, which reads the parameter and nothing else.  A tick that
publishes a green flag finds a competition running or starts one.
-/

namespace HitchOpen.CompetitionTimer

open HitchOpen.EventMachine HitchOpen.Messages HitchOpen.Runtime HitchOpen.VehicleFlag

section Outputs

variable {R : Type*} [Field R]

theorem flag_not_mem_countCrossing (c : Config R) (s : State R) (now : R) (flag : UInt8) :
    .flag flag ∉ (countCrossing c s now).outputs := by
  rw [countCrossing]
  split
  · exact List.not_mem_nil
  · split
    · exact List.not_mem_nil
    · split <;> simp

variable [LinearOrder R]

/-- What is saved is no flag message. -/
theorem flag_not_mem_saveResults (s : State R) (flag : UInt8) : .flag flag ∉ (saveResults s).1 := by
  rw [saveResults]
  split
  · exact List.not_mem_nil
  · split
    · exact List.not_mem_nil
    · split
      · exact List.not_mem_nil
      · split <;> simp

theorem flag_mem_endCompetition {c : Config R} {s : State R} {published : List (Output R)}
    {flag : UInt8} (h : .flag flag ∈ (endCompetition c s published).outputs) :
    .flag flag ∈ published := by
  rw [endCompetition] at h
  dsimp only at h
  split at h
  · exact h
  · split at h
    · exact h
    · have hsaved := flag_not_mem_saveResults { s with competitionActive := false } flag
      split at h
      · rename_i heq
        rw [heq] at hsaved
        exact (List.mem_append.mp h).resolve_right hsaved
      · rename_i heq
        rw [heq] at hsaved
        exact (List.mem_append.mp h).resolve_right hsaved

/-- Under a green flag a tick leaves a competition running. -/
theorem publishVehicleFlag_green (c : Config R) {s : State R}
    (h : isGreen (flagOfParam s.vehicleFlagParam) = true) :
    (publishVehicleFlag c s).state.competitionActive = true := by
  rcases publishVehicleFlag_cases c s with ⟨-, -, hr⟩ | ⟨hb, -, -⟩ | ⟨hs, -, hr⟩
  · rw [hr]
    rfl
  · rw [hb, isGreen_black] at h
    cases h
  · rw [hr]
    show s.competitionActive = true
    by_contra hidle
    exact hs ⟨h, by simpa using hidle⟩

variable [Sqrt R]

/-- A flag is published by a tick, and it is the one that the parameter names. -/
theorem flag_of_step {c : Config R} {s : State R} {e : Event R} {flag : UInt8}
    (h : .flag flag ∈ (step c s e).outputs) :
    e = .flagTick ∧ flag = flagOfParam s.vehicleFlagParam := by
  cases e with
  | clock sec nanosec => exact absurd h List.not_mem_nil
  | setVehicleFlag value => exact absurd h List.not_mem_nil
  | gps msg =>
      rcases gpsCallback_cases c s msg with ⟨-, hr⟩ | ⟨now, -, hr⟩
      · rw [step, hr] at h
        exact absurd h List.not_mem_nil
      · rw [step, hr] at h
        exact absurd h (flag_not_mem_countCrossing c s now flag)
  | flagTick =>
      refine ⟨rfl, ?_⟩
      rw [step] at h
      rcases publishVehicleFlag_cases c s with ⟨-, -, hr⟩ | ⟨hb, -, hr⟩ | ⟨-, -, hr⟩
      · rw [hr] at h
        cases List.mem_singleton.mp h
        rfl
      · rw [hr] at h
        cases List.mem_singleton.mp (flag_mem_endCompetition h)
        exact hb.symm
      · rw [hr] at h
        cases List.mem_singleton.mp h
        rfl

end Outputs

end HitchOpen.CompetitionTimer
