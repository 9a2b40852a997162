import HitchOpen.CompetitionTimer.LapTiming
import HitchOpen.CompetitionTimer.LostLaps

/-!
# The shortest lap

The debounce keeps a crossing away from the one before it, but the first lap is measured from the green
flag.  On a clock that does not go back the green flag lies before the first crossing, so that the first
lap is no shorter than the time between the first two crossings, and every recorded lap takes at least
`min_crossing_interval`.

A restart forgets the last crossing and the laps, and replaces the start time; a pause changes none of
them.  `Ordered` is what all the callbacks keep.
-/

namespace HitchOpen.CompetitionTimer

open HitchOpen.EventMachine HitchOpen.Messages HitchOpen.Runtime HitchOpen.VehicleFlag

section Order

variable {R : Type*} [LinearOrder R]

/-- The start of the competition, its last crossing and the current time come in this order, and the
laps recorded so far are long enough. -/
structure Ordered (c : Config R) (s : State R) : Prop where
  start_le : ∀ t₀, s.startTime = some t₀ → ∃ now, s.currentTime = some now ∧ t₀ ≤ now
  start_le_last : ∀ t₀ last, s.startTime = some t₀ → s.lastCrossingTime = some last → t₀ ≤ last
  laps : ∀ lap ∈ s.lapTimes, c.minCrossingInterval ≤ lap

theorem init_ordered (c : Config R) : Ordered c (init c) where
  start_le _ h := by cases h
  start_le_last _ _ h := by cases h
  laps _ h := absurd h List.not_mem_nil

/-- A callback that keeps the times and the laps keeps their order. -/
theorem Ordered.of_eq {c : Config R} {s s' : State R} (h : Ordered c s)
    (hstart : s'.startTime = s.startTime) (hcurrent : s'.currentTime = s.currentTime)
    (hlast : s'.lastCrossingTime = s.lastCrossingTime) (hlaps : s'.lapTimes = s.lapTimes) :
    Ordered c s' where
  start_le := by
    rw [hstart, hcurrent]
    exact h.start_le
  start_le_last := by
    rw [hstart, hlast]
    exact h.start_le_last
  laps := by
    rw [hlaps]
    exact h.laps

/-- A lap that takes long enough is recorded, and the crossing at its end remembered. -/
theorem recordLap_ordered {c : Config R} {s : State R} {now lap : R} (h : Ordered c s)
    (hstart : ∀ t₀, s.startTime = some t₀ → t₀ ≤ now) (hlap : c.minCrossingInterval ≤ lap) (n : ℕ) :
    Ordered c { recordLap c s n now lap with
      currentLap := some (n + 1), lastCrossingTime := some now } := by
  refine ⟨?_, ?_, ?_⟩
  · intro t₀ ht₀
    dsimp only at ht₀ ⊢
    rw [recordLap_startTime] at ht₀
    rw [recordLap_currentTime]
    exact h.start_le t₀ ht₀
  · intro t₀ last ht₀ hlast
    dsimp only at ht₀
    rw [recordLap_startTime] at ht₀
    exact (Option.some.inj hlast) ▸ hstart t₀ ht₀
  · show ∀ lap' ∈ (recordLap c s n now lap).lapTimes, c.minCrossingInterval ≤ lap'
    rw [recordLap_lapTimes, List.forall_mem_append]
    exact ⟨h.laps, List.forall_mem_singleton.mpr hlap⟩

variable [Field R]

theorem clockCallback_ordered {c : Config R} {s : State R} (h : Ordered c s) (sec : ℤ) (nanosec : ℕ)
    (hclock : ∀ now, s.currentTime = some now → now ≤ sec + nanosec * (1 / 10 ^ 9)) :
    Ordered c (clockCallback s sec nanosec).state where
  start_le t₀ ht₀ := by
    obtain ⟨now, hnow, hle⟩ := h.start_le t₀ ht₀
    exact ⟨_, rfl, hle.trans (hclock now hnow)⟩
  start_le_last := h.start_le_last
  laps := h.laps

theorem publishVehicleFlag_ordered {c : Config R} {s : State R} (h : Ordered c s) :
    Ordered c (publishVehicleFlag c s).state := by
  rcases publishVehicleFlag_cases c s with ⟨-, -, hr⟩ | ⟨-, -, hr⟩ | ⟨-, -, hr⟩
  · -- a new competition starts now, without a crossing and without laps
    rw [hr]
    refine ⟨?_, ?_, ?_⟩
    · intro t₀ ht₀
      exact ⟨t₀, ht₀, le_refl t₀⟩
    · intro t₀ last _ hlast
      cases hlast
    · intro lap hlap
      exact absurd hlap List.not_mem_nil
  · rw [hr, endCompetition_state]
    exact h.of_eq rfl rfl rfl rfl
  · rw [hr]
    exact h.of_eq rfl rfl rfl rfl

variable [IsStrictOrderedRing R]

/-- A lap is no shorter than the time since the last crossing. -/
theorem lapTime_ge {s : State R} {n : ℕ} {now last lap : R}
    (hstart : ∀ t₀, s.startTime = some t₀ → t₀ ≤ last) (h : lapTime s n now last = .ok lap) :
    now - last ≤ lap := by
  rw [lapTime] at h
  by_cases hn : n = 1
  · rw [if_pos hn] at h
    cases ht₀ : s.startTime with
    | none =>
        rw [ht₀] at h
        cases h
    | some t₀ =>
        rw [ht₀] at h
        obtain rfl : now - t₀ = lap := Except.ok.inj h
        exact sub_le_sub_left (hstart t₀ ht₀) now
  · rw [if_neg hn] at h
    obtain rfl : now - last = lap := Except.ok.inj h
    exact le_refl _

theorem countCrossing_ordered {c : Config R} {s : State R} {now : R} (h : Ordered c s)
    (hnow : s.currentTime = some now)
    (hinterval : ∀ last, s.lastCrossingTime = some last → c.minCrossingInterval ≤ now - last)
    (hd : (countCrossing c s now).stop = none) : Ordered c (countCrossing c s now).state := by
  have hstart : ∀ t₀, s.startTime = some t₀ → t₀ ≤ now := by
    intro t₀ ht₀
    obtain ⟨now', hnow', hle⟩ := h.start_le t₀ ht₀
    rw [hnow] at hnow'
    exact (Option.some.inj hnow') ▸ hle
  obtain ⟨n, hn, -, -⟩ := countCrossing_done hd
  cases hlast : s.lastCrossingTime with
  | none =>
      rw [countCrossing_first c hn hlast]
      refine ⟨h.start_le, ?_, h.laps⟩
      intro t₀ last ht₀ hl
      exact (Option.some.inj hl) ▸ hstart t₀ ht₀
  | some last =>
      cases hlap : lapTime s n now last with
      | error e =>
          rw [countCrossing_error c hn hlast now hlap] at hd
          cases hd
      | ok lap =>
          have hle := lapTime_ge (fun t₀ ht₀ => h.start_le_last t₀ last ht₀ hlast) hlap
          rw [countCrossing_lap c hn hlast now hlap]
          exact recordLap_ordered h hstart ((hinterval last hlast).trans hle) n

end Order

section Run

variable {R : Type*} [Field R] [LinearOrder R] [Sqrt R]

/-- At every clock message of a run whose readings are ordered, the clock does not go back. -/
theorem clock_le_of_pairwise {c : Config R} {es pre : List (Event R)} {s : State R} {sec : ℤ}
    {nanosec : ℕ} {now : R} (hclock : (clockReadings es).Pairwise (· ≤ ·))
    (hpre : pre ++ [.clock sec nanosec] <+: es)
    (hrun : (timerNode c).runFrom (init c) pre = some s) (hnow : s.currentTime = some now) :
    now ≤ sec + nanosec * (1 / 10 ^ 9) := by
  obtain ⟨rest, rfl⟩ := hpre
  rw [clockReadings_append, List.pairwise_append] at hclock
  have hnext : (timerNode c).runFrom (init c) (pre ++ [.clock sec nanosec]) =
      some (clockCallback s sec nanosec).state := by
    rw [(timerNode c).runFrom_append_of_eq _ hrun]
    rfl
  exact currentTime_le hclock.1 hrun hnext hnow rfl

variable [IsStrictOrderedRing R]

theorem step_ordered {c : Config R} {s : State R} {e : Event R} (h : Ordered c s)
    (hclock : ∀ sec nanosec now, e = .clock sec nanosec → s.currentTime = some now →
      now ≤ sec + nanosec * (1 / 10 ^ 9))
    (hd : (step c s e).stop = none) : Ordered c (step c s e).state := by
  cases e with
  | clock sec nanosec =>
      exact clockCallback_ordered h sec nanosec fun now hnow => hclock sec nanosec now rfl hnow
  | setVehicleFlag value => exact h.of_eq rfl rfl rfl rfl
  | flagTick => exact publishVehicleFlag_ordered h
  | gps msg =>
      rw [step] at hd ⊢
      rcases gpsCallback_cases c s msg with ⟨-, hr⟩ | ⟨now, hdet, hr⟩
      · rw [hr]
        exact h
      · rw [hr] at hd ⊢
        exact countCrossing_ordered h hdet.1.2
          ((checkFinishLineCrossing_iff c _ now _).mp hdet.2).2 hd

/-- **The shortest lap.**  On a clock that does not go back every lap that is ever recorded takes at
least the minimum interval, and so does the time between two consecutive crossings of a competition. -/
theorem laps_ge_minCrossingInterval (c : Config R) (es : List (Event R))
    (hclock : (clockReadings es).Pairwise (· ≤ ·)) :
    (timerNode c).EachState (init c) es
        (fun s => ∀ lap ∈ s.lapTimes, c.minCrossingInterval ≤ lap) ∧
      ∀ pre mid e₁ e₂ s₁ s₂, pre ++ e₁ :: (mid ++ [e₂]) <+: es →
        ConsecutiveCrossings c pre e₁ mid e₂ s₁ s₂ →
        ∃ t₁ t₂, s₁.currentTime = some t₁ ∧ s₂.currentTime = some t₂ ∧
          c.minCrossingInterval ≤ t₂ - t₁ := by
  refine ⟨?_, ?_⟩
  · have hstep : (timerNode c).EachStep (init c) es fun s e => ∀ sec nanosec now,
        e = .clock sec nanosec → s.currentTime = some now →
          now ≤ sec + nanosec * (1 / 10 ^ 9) := by
      rintro pre e s hpre hrun sec nanosec now rfl hnow
      exact clock_le_of_pairwise hclock hpre hrun hnow
    have hordered : (timerNode c).EachState (init c) es (Ordered c) :=
      (timerNode c).eachState_of_eachStep (I := fun _ => True) trivial (fun _ _ _ _ _ => trivial)
        (init_ordered c) (fun s e _ hs hC hd => step_ordered hs hC hd) hstep
    intro pre s hpre hrun
    exact (hordered pre s hpre hrun).laps
  · intro pre mid e₁ e₂ s₁ s₂ _ h
    obtain ⟨t₁, -, ht₁, -⟩ := h.toLastCrossing.remembered
    obtain ⟨t₂, ht₂, hle⟩ := h.interval_le ht₁
    exact ⟨t₁, t₂, ht₁, ht₂, hle⟩

end Run

/-- In a race with a pause. -/
theorem laps_ge_ten :
    (timerNode (oval 2)).EachState (init (oval 2)) twoLaps
        (fun s => ∀ lap ∈ s.lapTimes, (oval 2).minCrossingInterval ≤ lap) :=
  (laps_ge_minCrossingInterval (oval 2) twoLaps (by decide +kernel)).1

end HitchOpen.CompetitionTimer
