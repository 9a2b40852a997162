import HitchOpen.CompetitionTimer.LapLedger

/-!
# Passages of the finish line and counted crossings

The detector is level-triggered: a fix within the tolerance is a crossing, and the only thing that
keeps one passage from being counted twice is `min_crossing_interval`.  Nothing remembers whether the
vehicle has left the line.

`consecutive_crossings` says what that gives.  Two consecutive counted crossings of a competition are
at least the interval apart, and in between no fix on the line is that late.  A vehicle that is still
on the line when the interval is over is counted again, unless that raises: `passage_counted_twice`
stops one there.
-/

namespace HitchOpen.CompetitionTimer

open HitchOpen.EventMachine HitchOpen.Messages HitchOpen.Runtime HitchOpen.VehicleFlag

section Counting

variable {R : Type*} [Field R]

/-- Counting a crossing, when nothing raises, increments the lap and remembers the time. -/
theorem countCrossing_done {c : Config R} {s : State R} {now : R}
    (h : (countCrossing c s now).stop = none) :
    ∃ n, s.currentLap = some n ∧ (countCrossing c s now).state.currentLap = some (n + 1) ∧
      (countCrossing c s now).state.lastCrossingTime = some now := by
  cases hn : s.currentLap with
  | none =>
      simp only [countCrossing, hn] at h
      cases h
  | some n =>
      refine ⟨n, rfl, ?_⟩
      cases hlast : s.lastCrossingTime with
      | none =>
          rw [countCrossing_first c hn hlast]
          exact ⟨rfl, rfl⟩
      | some last =>
          cases hlap : lapTime s n now last with
          | error e =>
              rw [countCrossing_error c hn hlast now hlap] at h
              cases h
          | ok lap =>
              rw [countCrossing_lap c hn hlast now hlap]
              exact ⟨rfl, rfl⟩

/-- Counting another crossing raises in one case: the first lap has no start to be measured from. -/
theorem countCrossing_stop_iff (c : Config R) {s : State R} {last : R} {n : ℕ}
    (hn : s.currentLap = some n) (hlast : s.lastCrossingTime = some last) (now : R) :
    (countCrossing c s now).stop = none ↔ ¬ (s.startTime = none ∧ s.currentLap = some 1) := by
  rw [hn, Option.some.injEq]
  cases hlap : lapTime s n now last with
  | error e =>
      rw [countCrossing_error c hn hlast now hlap]
      refine iff_of_false (by simp) fun h => h ?_
      by_cases hone : n = 1
      · refine ⟨?_, hone⟩
        rw [lapTime, if_pos hone] at hlap
        cases hst : s.startTime with
        | none => rfl
        | some startTime =>
            rw [hst] at hlap
            cases hlap
      · rw [lapTime, if_neg hone] at hlap
        cases hlap
  | ok lap =>
      rw [countCrossing_lap c hn hlast now hlap]
      refine iff_of_true rfl ?_
      rintro ⟨hst, rfl⟩
      rw [lapTime, if_pos rfl, hst] at hlap
      cases hlap

/-- A callback that raises leaves the lap counter alone. -/
theorem countCrossing_halt {c : Config R} {s : State R} {now : R}
    (h : (countCrossing c s now).stop ≠ none) : (countCrossing c s now).state = s := by
  unfold countCrossing at h ⊢
  split
  · rfl
  · split
    · simp_all
    · split <;> simp_all

end Counting

variable {R : Type*} [Field R] [LinearOrder R] [Sqrt R]

/-- The event increments `current_lap`. -/
def CountsCrossing (c : Config R) (s : State R) (e : Event R) : Prop :=
  ∃ n, s.currentLap = some n ∧ (step c s e).state.currentLap = some (n + 1)

/-- The event opens a competition. -/
def StartsCompetition (c : Config R) (s : State R) (e : Event R) : Prop :=
  s.competitionActive = false ∧ (step c s e).state.competitionActive = true

/-- The event `e₁`, met in the state `s₁` after `pre`, counts a crossing, and none has been counted and
no competition opened since, in `mid`, which leads to the state `s₂`. -/
structure LastCrossing (c : Config R) (pre : List (Event R)) (e₁ : Event R) (mid : List (Event R))
    (s₁ s₂ : State R) : Prop where
  reaches₁ : (timerNode c).runFrom (init c) pre = some s₁
  counts₁ : CountsCrossing c s₁ e₁
  reaches₂ : (timerNode c).runFrom (init c) (pre ++ e₁ :: mid) = some s₂
  between : (timerNode c).EachStep (step c s₁ e₁).state mid
    fun s e => ¬ CountsCrossing c s e ∧ ¬ StartsCompetition c s e

/-- The events `e₁` and `e₂`, met in the states `s₁` and `s₂` after `pre` and after `mid`, count two
consecutive crossings of one competition. -/
structure ConsecutiveCrossings (c : Config R) (pre : List (Event R)) (e₁ : Event R)
    (mid : List (Event R)) (e₂ : Event R) (s₁ s₂ : State R) : Prop
    extends LastCrossing c pre e₁ mid s₁ s₂ where
  counts₂ : CountsCrossing c s₂ e₂

/-- The detector: a fix within the tolerance counts unless the last crossing is too recent. -/
theorem checkFinishLineCrossing_iff (c : Config R) (last : Option R) (now : R) (p : R × R) :
    checkFinishLineCrossing c last now p = true ↔
      withinTolerance c p = true ∧ ∀ t, last = some t → c.minCrossingInterval ≤ now - t := by
  cases last with
  | none => simp [checkFinishLineCrossing]
  | some t =>
      simp only [checkFinishLineCrossing, Option.some.injEq, forall_eq']
      by_cases h : now - t < c.minCrossingInterval
      · simp [h]
      · simp [h, not_lt.mp h]

/-- Only a detected fix counts a crossing. -/
theorem CountsCrossing.detected {c : Config R} {s : State R} {e : Event R}
    (h : CountsCrossing c s e) :
    ∃ msg now, e = .gps msg ∧ Detected c s msg now ∧
      (step c s e).state.lastCrossingTime = some now := by
  obtain ⟨n, hn, hn'⟩ := h
  have hmove : (step c s e).state.currentLap ≠ s.currentLap := by
    rw [hn, hn']
    simp
  cases e with
  | clock sec nanosec => exact absurd rfl hmove
  | setVehicleFlag value => exact absurd rfl hmove
  | flagTick =>
      rcases publishVehicleFlag_laps c s with ⟨h, -⟩ | ⟨h, -⟩
      · exact absurd h hmove
      · rw [step, h] at hn'
        cases hn'
  | gps msg =>
      simp only [step] at hmove ⊢
      rcases gpsCallback_cases c s msg with ⟨-, hr⟩ | ⟨now, hdet, hr⟩
      · rw [hr] at hmove
        exact absurd rfl hmove
      · refine ⟨msg, now, rfl, hdet, ?_⟩
        rw [hr] at hmove ⊢
        by_cases hd : (countCrossing c s now).stop = none
        · obtain ⟨-, -, -, hlast⟩ := countCrossing_done hd
          exact hlast
        · rw [countCrossing_halt hd] at hmove
          exact absurd rfl hmove

/-- A detected fix whose callback does not raise counts a crossing. -/
theorem Detected.countsCrossing {c : Config R} {s : State R} {msg : NavSatFix R} {now : R}
    (h : Detected c s msg now) (hd : (step c s (.gps msg)).stop = none) :
    CountsCrossing c s (.gps msg) := by
  rcases gpsCallback_cases c s msg with ⟨hno, -⟩ | ⟨t, -, hr⟩
  · exact absurd h (hno now)
  · simp only [step, hr] at hd
    obtain ⟨n, hn, hn', -⟩ := countCrossing_done hd
    exact ⟨n, hn, by simpa only [step, hr] using hn'⟩

/-- As long as nothing is counted and no competition opened, the last crossing stays. -/
theorem lastCrossing_step {c : Config R} {s : State R} {e : Event R}
    (hcount : ¬ CountsCrossing c s e) (hstart : ¬ StartsCompetition c s e)
    (hd : (step c s e).stop = none) :
    (step c s e).state.lastCrossingTime = s.lastCrossingTime ∧
      (step c s e).state.currentLap = s.currentLap := by
  cases e with
  | clock sec nanosec => exact ⟨rfl, rfl⟩
  | setVehicleFlag value => exact ⟨rfl, rfl⟩
  | flagTick =>
      simp only [step]
      rcases publishVehicleFlag_cases c s with ⟨-, hidle, hr⟩ | ⟨-, -, hr⟩ | ⟨-, -, hr⟩
      · refine absurd ⟨hidle, ?_⟩ hstart
        rw [step, hr]
        rfl
      · rw [hr, endCompetition_state]
        exact ⟨rfl, rfl⟩
      · rw [hr]
        exact ⟨rfl, rfl⟩
  | gps msg =>
      rcases gpsCallback_cases c s msg with ⟨-, hr⟩ | ⟨now, hdet, -⟩
      · rw [step, hr]
        exact ⟨rfl, rfl⟩
      · exact absurd (hdet.countsCrossing hd) hcount

/-- A processed fix on the line that is late enough is detected. -/
theorem detected_of_late {c : Config R} {s : State R} {msg : NavSatFix R} {now last : R}
    (hp : Processed s now) (hlast : s.lastCrossingTime = some last)
    (hin : withinTolerance c (localPosition c msg) = true)
    (hlate : c.minCrossingInterval ≤ now - last) : Detected c s msg now := by
  refine ⟨hp, (checkFinishLineCrossing_iff c _ now _).mpr ⟨hin, fun t ht => ?_⟩⟩
  rw [hlast] at ht
  exact Option.some.inj ht ▸ hlate

/-- A processed fix on the line that is not counted comes too soon after the last crossing. -/
theorem too_soon_of_not_counted {c : Config R} {s : State R} {msg : NavSatFix R} {now last : R}
    (hp : Processed s now) (hlast : s.lastCrossingTime = some last)
    (hin : withinTolerance c (localPosition c msg) = true)
    (hcount : ¬ CountsCrossing c s (.gps msg)) (hd : (step c s (.gps msg)).stop = none) :
    now - last < c.minCrossingInterval := by
  by_contra hlong
  have hdet : Detected c s msg now := detected_of_late hp hlast hin (not_lt.mp hlong)
  exact hcount (hdet.countsCrossing hd)

/-- A detected fix after another crossing counts, unless the lap that it completes has no start. -/
theorem Detected.countsCrossing_iff {c : Config R} {s : State R} {msg : NavSatFix R} {now last : R}
    {n : ℕ} (h : Detected c s msg now) (hn : s.currentLap = some n)
    (hlast : s.lastCrossingTime = some last) :
    CountsCrossing c s (.gps msg) ↔ ¬ (s.startTime = none ∧ s.currentLap = some 1) := by
  rcases gpsCallback_cases c s msg with ⟨hno, -⟩ | ⟨t, -, hr⟩
  · exact absurd h (hno now)
  · have hstop := countCrossing_stop_iff c hn hlast t
    refine ⟨?_, ?_⟩
    · rintro ⟨k, hk, hk'⟩
      by_contra hfirst
      -- a callback that raises leaves the counter where it was
      rw [step, hr, countCrossing_halt (fun hd => hstop.mp hd hfirst), hk] at hk'
      exact absurd (Option.some.inj hk') (by omega)
    · intro hfirst
      refine h.countsCrossing ?_
      rw [step, hr]
      exact hstop.mpr hfirst

/-- The last crossing is remembered, and a lap is being driven since. -/
theorem LastCrossing.remembered {c : Config R} {pre mid : List (Event R)} {e₁ : Event R}
    {s₁ s₂ : State R} (h : LastCrossing c pre e₁ mid s₁ s₂) :
    ∃ t₁ n, s₁.currentTime = some t₁ ∧
      (timerNode c).runFrom (step c s₁ e₁).state mid = some s₂ ∧
      (timerNode c).EachState (step c s₁ e₁).state mid
        fun s => s.lastCrossingTime = some t₁ ∧ s.currentLap = some n := by
  obtain ⟨msg₁, t₁, rfl, hdet₁, hlast₁⟩ := h.counts₁.detected
  obtain ⟨n, -, hlap₁⟩ := h.counts₁
  refine ⟨t₁, n + 1, hdet₁.1.2, ?_, ?_⟩
  · have hrun := h.reaches₂
    rw [Machine.runFrom_append_of_eq _ _ h.reaches₁] at hrun
    exact ((timerNode c).runFrom_cons_iff.mp hrun).2
  · refine (timerNode c).eachState_of_eachStep (I := fun _ => True) trivial
      (fun _ _ _ _ _ => trivial) ⟨hlast₁, hlap₁⟩ ?_ h.between
    intro s e _ hs hC hd
    obtain ⟨hlast, hlap⟩ := lastCrossing_step hC.1 hC.2 hd
    exact ⟨hlast.trans hs.1, hlap.trans hs.2⟩

/-- Two consecutive crossings are at least the minimum interval apart. -/
theorem ConsecutiveCrossings.interval_le {c : Config R} {pre mid : List (Event R)} {e₁ e₂ : Event R}
    {s₁ s₂ : State R} (h : ConsecutiveCrossings c pre e₁ mid e₂ s₁ s₂) {t₁ : R}
    (ht₁ : s₁.currentTime = some t₁) :
    ∃ t₂, s₂.currentTime = some t₂ ∧ c.minCrossingInterval ≤ t₂ - t₁ := by
  obtain ⟨t, n, ht, hreach, hmid⟩ := h.toLastCrossing.remembered
  obtain ⟨msg₂, t₂, -, hdet₂, -⟩ := h.counts₂.detected
  obtain ⟨hlast₂, -⟩ := hmid mid s₂ (List.prefix_refl mid) hreach
  rw [ht₁] at ht
  obtain rfl : t₁ = t := Option.some.inj ht
  exact ⟨t₂, hdet₂.1.2, ((checkFinishLineCrossing_iff c _ t₂ _).mp hdet₂.2).2 t₁ hlast₂⟩

/-- **Passages.**  After a counted crossing, as long as no other is counted and no competition opened,
every fix that is processed within the tolerance comes less than the minimum interval later.  The next
counted crossing is at least the interval away, and the first fix that is processed within the
tolerance that late is counted, unless it completes the first lap of a competition without a start
time (which raises). -/
theorem consecutive_crossings (c : Config R) (pre mid : List (Event R)) (e₁ : Event R)
    (s₁ s₂ : State R) (h : LastCrossing c pre e₁ mid s₁ s₂) :
    ∃ t₁, s₁.currentTime = some t₁ ∧
      ((timerNode c).EachStep (step c s₁ e₁).state mid fun s e => ∀ msg now, e = .gps msg →
        Processed s now → withinTolerance c (localPosition c msg) = true →
        now - t₁ < c.minCrossingInterval) ∧
      (∀ e₂, ConsecutiveCrossings c pre e₁ mid e₂ s₁ s₂ →
        ∃ t₂, s₂.currentTime = some t₂ ∧ c.minCrossingInterval ≤ t₂ - t₁) ∧
      ∀ msg t₂, Processed s₂ t₂ → withinTolerance c (localPosition c msg) = true →
        c.minCrossingInterval ≤ t₂ - t₁ →
        (ConsecutiveCrossings c pre e₁ mid (.gps msg) s₁ s₂ ↔
          ¬ (s₂.startTime = none ∧ s₂.currentLap = some 1)) := by
  obtain ⟨t₁, n, ht₁, hreach, hmid⟩ := h.remembered
  refine ⟨t₁, ht₁, ?_, fun e₂ h₂ => h₂.interval_le ht₁, ?_⟩
  · rintro p e s hpre hrun msg now rfl hp hin
    obtain ⟨hlast, -⟩ := hmid p s ((List.prefix_append p _).trans hpre) hrun
    have hd := (timerNode c).eachStep_of_runFrom hreach p _ s hpre hrun
    exact too_soon_of_not_counted hp hlast hin (h.between p _ s hpre hrun).1 hd
  · intro msg t₂ hp hin hlate
    obtain ⟨hlast₂, hlap₂⟩ := hmid mid s₂ (List.prefix_refl mid) hreach
    have hdet : Detected c s₂ msg t₂ := detected_of_late hp hlast₂ hin hlate
    rw [← hdet.countsCrossing_iff hlap₂ hlast₂]
    exact ⟨fun h₂ => h₂.counts₂, fun hcount => ⟨h, hcount⟩⟩

/-! ### A vehicle that is stopped on the line -/

/-- The vehicle stands on the finish line when the competition is opened at time 1. -/
def parkedStart : List (Event ℚ) := [.clock 1 0, .setVehicleFlag "green", .flagTick]

/-- It is still there five and ten seconds later. -/
def parkedWait : List (Event ℚ) := [.clock 6 0, onTheLine, .clock 11 0]

/-- The state at the time `t` after `lap` crossings, the last of them at `last`. -/
def parked (t : ℚ) (lap : ℕ) (last : Option ℚ) : State ℚ where
  vehicleFlagParam := "green"
  vehicleFlag := GREEN
  competitionActive := true
  startTime := some 1
  endTime := none
  currentTime := some t
  lastCrossingTime := last
  lapTimes := []
  currentLap := some lap

theorem parked_not_counted {t t' : ℚ} {lap : ℕ} {last last' : Option ℚ} {e : Event ℚ}
    (h : (step (oval 10) (parked t lap last) e).state = parked t' lap last') :
    ¬ CountsCrossing (oval 10) (parked t lap last) e ∧
      ¬ StartsCompetition (oval 10) (parked t lap last) e := by
  refine ⟨?_, ?_⟩
  · rintro ⟨n, hn, hn'⟩
    rw [h] at hn'
    cases Option.some.inj hn
    exact absurd (Option.some.inj hn') (by omega)
  · rintro ⟨ha, -⟩
    cases ha

theorem parked_consecutive :
    ConsecutiveCrossings (oval 10) parkedStart onTheLine parkedWait onTheLine
      (parked 1 0 none) (parked 11 1 (some 1)) where
  reaches₁ := by decide +kernel
  counts₁ := ⟨0, rfl, by decide +kernel⟩
  reaches₂ := by decide +kernel
  counts₂ := ⟨1, rfl, by decide +kernel⟩
  between := by
    have h₁ : (step (oval 10) (parked 1 0 none) onTheLine).state = parked 1 1 (some 1) := by
      decide +kernel
    have h₂ : (step (oval 10) (parked 1 1 (some 1)) (.clock 6 0)).state = parked 6 1 (some 1) := by
      decide +kernel
    have h₃ : (step (oval 10) (parked 6 1 (some 1)) onTheLine).state = parked 6 1 (some 1) := by
      decide +kernel
    have h₄ : (step (oval 10) (parked 6 1 (some 1)) (.clock 11 0)).state = parked 11 1 (some 1) := by
      decide +kernel
    have hm : (timerNode (oval 10)).step = step (oval 10) := rfl
    rw [h₁, parkedWait]
    refine (timerNode (oval 10)).eachStep_cons.mpr ⟨parked_not_counted h₂, fun _ => ?_⟩
    rw [hm, h₂]
    refine (timerNode (oval 10)).eachStep_cons.mpr ⟨parked_not_counted h₃, fun _ => ?_⟩
    rw [hm, h₃]
    refine (timerNode (oval 10)).eachStep_cons.mpr ⟨parked_not_counted h₄, fun _ => ?_⟩
    exact (timerNode (oval 10)).eachStep_nil

/-- The second crossing of the stopped vehicle is counted as soon as the minimum interval is over. -/
theorem parked_crossings :
    ∃ t₁, (parked 1 0 none).currentTime = some t₁ ∧
      (∃ t₂, (parked 11 1 (some 1)).currentTime = some t₂ ∧
        (oval 10).minCrossingInterval ≤ t₂ - t₁) ∧
      ConsecutiveCrossings (oval 10) parkedStart onTheLine parkedWait onTheLine
        (parked 1 0 none) (parked 11 1 (some 1)) := by
  obtain ⟨t₁, h₁, -, hnext, hlate⟩ := consecutive_crossings (oval 10) parkedStart parkedWait onTheLine
    _ _ parked_consecutive.toLastCrossing
  obtain rfl : 1 = t₁ := Option.some.inj h₁
  exact ⟨1, rfl, hnext onTheLine parked_consecutive,
    (hlate ⟨36, -115, 595⟩ 11 ⟨rfl, rfl⟩ (by decide +kernel) (by decide +kernel)).mpr (by decide)⟩

/-- Between them no fix lies off the line. -/
theorem passage_counted_twice :
    ¬ ∀ pre mid e₁ e₂ s₁ s₂, ConsecutiveCrossings (oval 10) pre e₁ mid e₂ s₁ s₂ →
      ∃ p msg q s now, mid = p ++ .gps msg :: q ∧
        (timerNode (oval 10)).runFrom (step (oval 10) s₁ e₁).state p = some s ∧ Processed s now ∧
        withinTolerance (oval 10) (localPosition (oval 10) msg) = false := by
  intro h
  obtain ⟨p, msg, q, -, -, hmid, -, -, hout⟩ := h _ _ _ _ _ _ parked_consecutive
  have hmem : .gps msg ∈ parkedWait := hmid ▸ List.mem_append_right p List.mem_cons_self
  have hmsg : msg = ⟨36, -115, 595⟩ := by
    simpa [parkedWait, onTheLine] using hmem
  have hin : withinTolerance (oval 10) (localPosition (oval 10) msg) = true := by
    rw [hmsg]
    decide +kernel
  rw [hin] at hout
  cases hout

end HitchOpen.CompetitionTimer
