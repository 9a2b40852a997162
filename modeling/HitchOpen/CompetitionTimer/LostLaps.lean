import HitchOpen.CompetitionTimer.ClockReadings
import HitchOpen.CompetitionTimer.FinishLine
import HitchOpen.CompetitionTimer.FinishLinePassages
import HitchOpen.GpsToEnu.Ellipsoid

/-!
# How far the vehicle may move between two fixes

The timer sees the vehicle only at its fixes.  A crossing that happens between two of them is counted
when one of them is within the tolerance of the finish line, and then it is: the debounce that lets the
first fix pass lets the second one pass too, since the clock does not go back and the last crossing is
not forgotten in between, unless a new competition has been opened, which has none.

So no lap is lost exactly when no move across the line can keep both ends clear of it, that is, when
the vehicle moves less than twice the tolerance.
-/

namespace HitchOpen.CompetitionTimer

open HitchOpen.EventMachine HitchOpen.Messages HitchOpen.Runtime HitchOpen.SegmentDistance
open HitchOpen.VehicleFlag
open scoped RealInnerProductSpace

section Counting

variable {R : Type*} [Field R]

/-- Where laps are counted from a known start, counting a crossing does not raise. -/
theorem countCrossing_stop (c : Config R) {s : State R} (hlap : s.currentLap ≠ none)
    (hstart : s.startTime ≠ none) (now : R) : (countCrossing c s now).stop = none := by
  obtain ⟨n, hn⟩ := Option.ne_none_iff_exists'.mp hlap
  cases hlast : s.lastCrossingTime with
  | none =>
      rw [countCrossing_first c hn hlast]
      rfl
  | some last => exact (countCrossing_stop_iff c hn hlast _).mpr fun h => hstart h.1

end Counting

/-! ### What is counted at two consecutive fixes -/

section Fixes

variable {R : Type*} [Field R] [LinearOrder R] [Sqrt R]

/-- Nothing but a fix sets the time of the last crossing. -/
theorem lastCrossingTime_of_step {c : Config R} {s : State R} {e : Event R}
    (he : ∀ msg, e ≠ .gps msg) {last : R}
    (h : (step c s e).state.lastCrossingTime = some last) : s.lastCrossingTime = some last := by
  cases e with
  | gps msg => exact absurd rfl (he msg)
  | clock sec nanosec => exact h
  | setVehicleFlag value => exact h
  | flagTick =>
      rw [step] at h
      rcases publishVehicleFlag_cases c s with ⟨-, -, hr⟩ | ⟨-, -, hr⟩ | ⟨-, -, hr⟩
      · rw [hr] at h
        cases h
      · rw [hr, endCompetition_state] at h
        exact h
      · rw [hr] at h
        exact h

theorem lastCrossingTime_between {c : Config R} {s t : State R} {mid : List (Event R)}
    (hmid : ∀ e ∈ mid, ∀ msg, e ≠ .gps msg) (h : (timerNode c).runFrom s mid = some t) {last : R}
    (hlast : t.lastCrossingTime = some last) : s.lastCrossingTime = some last := by
  induction mid generalizing s with
  | nil => exact Option.some.inj h ▸ hlast
  | cons e mid ih =>
      obtain ⟨he, hmid⟩ := List.forall_mem_cons.mp hmid
      obtain ⟨-, hrun⟩ := (timerNode c).runFrom_cons_iff.mp h
      exact lastCrossingTime_of_step he (ih hmid hrun)

/-- A fix that does not count a crossing leaves the state as it is. -/
theorem gps_state_of_not_counted {c : Config R} {s : State R} {msg : NavSatFix R}
    (hcount : ¬ CountsCrossing c s (.gps msg)) (hd : (step c s (.gps msg)).stop = none) :
    (step c s (.gps msg)).state = s := by
  rcases gpsCallback_cases c s msg with ⟨-, hr⟩ | ⟨now, hdet, -⟩
  · rw [step, hr]
    rfl
  · exact absurd (hdet.countsCrossing hd) hcount

/-- An active competition counts its laps. -/
def LapsCounted (s : State R) : Prop := s.competitionActive = true → s.currentLap ≠ none

theorem step_lapsCounted {c : Config R} {s : State R} {e : Event R} (h : LapsCounted s)
    (hd : (step c s e).stop = none) : LapsCounted (step c s e).state := by
  cases e with
  | clock sec nanosec => exact h
  | setVehicleFlag value => exact h
  | gps msg =>
      by_cases hcount : CountsCrossing c s (.gps msg)
      · obtain ⟨n, -, hn⟩ := hcount
        intro _
        rw [hn]
        simp
      · rw [gps_state_of_not_counted hcount hd]
        exact h
  | flagTick =>
      rw [step]
      rcases publishVehicleFlag_cases c s with ⟨-, -, hr⟩ | ⟨-, -, hr⟩ | ⟨-, -, hr⟩
      · rw [hr]
        intro _
        simp [started]
      · rw [hr, endCompetition_state]
        intro hactive
        cases hactive
      · rw [hr]
        exact h

theorem run_lapsCounted {c : Config R} {es : List (Event R)} {s : State R}
    (h : (timerNode c).runFrom (init c) es = some s) : LapsCounted s := by
  refine (timerNode c).runFrom_induct (P := LapsCounted) ?_ ?_ h
  · intro hactive
    cases hactive
  · intro s e hs hd
    exact step_lapsCounted hs hd

/-- Two fixes with none in between, both processed in a competition whose start time is known, the first
of them not too soon after the last crossing, in a run whose clock does not go back. -/
structure ConsecutiveFixes (c : Config R) (pre mid : List (Event R)) (a b : NavSatFix R)
    (s t : State R) : Prop where
  clock : (clockReadings (pre ++ .gps a :: mid)).Pairwise (· ≤ ·)
  reaches₁ : (timerNode c).runFrom (init c) pre = some s
  reaches₂ : (timerNode c).runFrom (init c) (pre ++ .gps a :: mid) = some t
  consecutive : ∀ e ∈ mid, ∀ msg, e ≠ .gps msg
  processed₁ : ∃ now, Processed s now
  processed₂ : ∃ now, Processed t now
  started₁ : s.startTime ≠ none
  started₂ : t.startTime ≠ none
  interval : ∀ last now, s.lastCrossingTime = some last → s.currentTime = some now →
    c.minCrossingInterval ≤ now - last

/-- A processed fix within the tolerance counts, unless it comes too soon. -/
theorem counts_of_within {c : Config R} {s : State R} {msg : NavSatFix R} {now : R}
    (hlaps : LapsCounted s) (hstart : s.startTime ≠ none) (hp : Processed s now)
    (hinterval : ∀ last, s.lastCrossingTime = some last → c.minCrossingInterval ≤ now - last)
    (hin : withinTolerance c (localPosition c msg) = true) : CountsCrossing c s (.gps msg) := by
  have hcheck := (checkFinishLineCrossing_iff c s.lastCrossingTime now _).mpr ⟨hin, hinterval⟩
  have hdet : Detected c s msg now := ⟨hp, hcheck⟩
  refine hdet.countsCrossing ?_
  rcases gpsCallback_cases c s msg with ⟨hno, -⟩ | ⟨t, -, hr⟩
  · exact absurd hdet (hno now)
  · rw [step, hr]
    exact countCrossing_stop c (hlaps hp.1) hstart t

variable [IsStrictOrderedRing R]

/-- **Two fixes.**  If one of two consecutive fixes is within the tolerance, one of them counts. -/
theorem ConsecutiveFixes.counts {c : Config R} {pre mid : List (Event R)} {a b : NavSatFix R}
    {s t : State R} (h : ConsecutiveFixes c pre mid a b s t)
    (hin : withinTolerance c (localPosition c a) = true ∨
      withinTolerance c (localPosition c b) = true) :
    CountsCrossing c s (.gps a) ∨ CountsCrossing c t (.gps b) := by
  obtain ⟨now, hnow⟩ := h.processed₁
  obtain ⟨later, hlater⟩ := h.processed₂
  have hinterval : ∀ last, s.lastCrossingTime = some last → c.minCrossingInterval ≤ now - last :=
    fun last hlast => h.interval last now hlast hnow.2
  by_cases hfirst : CountsCrossing c s (.gps a)
  · exact .inl hfirst
  -- nothing is counted at the first fix, so that it is the second one that is within the tolerance
  have hsecond : withinTolerance c (localPosition c b) = true :=
    hin.resolve_left fun ha => hfirst <|
      counts_of_within (run_lapsCounted h.reaches₁) h.started₁ hnow hinterval ha
  have hrun := h.reaches₂
  rw [(timerNode c).runFrom_append_of_eq _ h.reaches₁] at hrun
  obtain ⟨hd, hmid⟩ := (timerNode c).runFrom_cons_iff.mp hrun
  have hsame : ((timerNode c).step s (.gps a)).state = s := gps_state_of_not_counted hfirst hd
  rw [hsame] at hmid
  have hle : now ≤ later := currentTime_le h.clock h.reaches₁ h.reaches₂ hnow.2 hlater.2
  refine .inr (counts_of_within (run_lapsCounted h.reaches₂) h.started₂ hlater ?_ hsecond)
  intro last hlast
  have hold := hinterval last (lastCrossingTime_between h.consecutive hmid hlast)
  linarith

end Fixes

/-! ### How far apart the fixes may be -/

/-- Whenever the vehicle moves straight across the finish line between two consecutive fixes that are at
most `d` apart, one of the two counts a crossing. -/
def NoLapLost (c : Config ℝ) (d : ℝ) : Prop :=
  ∀ (pre mid : List (Event ℝ)) (a b : NavSatFix ℝ) (s t : State ℝ),
    ConsecutiveFixes c pre mid a b s t →
    Runtime.norm (localPosition c a - localPosition c b) ≤ d →
    (segment ℝ (localPosition c a) (localPosition c b) ∩ segment ℝ c.point1 c.point2).Nonempty →
    CountsCrossing c s (.gps a) ∨ CountsCrossing c t (.gps b)

/-- Every point of the map is the position of a fix. -/
def CoversMap (c : Config ℝ) : Prop := ∀ p : ℝ × ℝ, ∃ msg, localPosition c msg = p

/-- With less than twice the tolerance between them, one of two fixes is within the tolerance of a line
that the move between them meets. -/
theorem within_of_crossing {c : Config ℝ} (hline : c.point1 ≠ c.point2) {p q : ℝ × ℝ}
    (hclose : Runtime.norm (p - q) < 2 * c.crossingTolerance)
    (hmeets : (segment ℝ p q ∩ segment ℝ c.point1 c.point2).Nonempty) :
    withinTolerance c p = true ∨ withinTolerance c q = true := by
  obtain ⟨x, hmove, hx⟩ := hmeets
  rw [norm_eq_norm] at hclose
  rw [withinTolerance_iff c hline, withinTolerance_iff c hline]
  rcases near_an_end (vector_mem_segment_iff.mpr hmove) hclose with hnear | hnear
  · refine .inl ⟨x, hx, ?_⟩
    rw [norm_eq_norm]
    exact hnear
  · refine .inr ⟨x, hx, ?_⟩
    rw [norm_eq_norm]
    exact hnear

theorem noLapLost_of_lt {c : Config ℝ} (hline : c.point1 ≠ c.point2) {d : ℝ}
    (hd : d < 2 * c.crossingTolerance) : NoLapLost c d := by
  intro pre mid a b s t hfixes hclose hmeets
  exact hfixes.counts (within_of_crossing hline (lt_of_le_of_lt hclose hd) hmeets)

/-! ### A lap that is lost -/

/-- A vector across the finish line, of length `r`. -/
theorem exists_across (v : ℝ × ℝ) (hv : v ≠ 0) {r : ℝ} (hr : 0 ≤ r) :
    ∃ w : ℝ × ℝ, ⟪vector w, vector v⟫ = 0 ∧ ‖vector w‖ = r := by
  have hne : (-v.2, v.1) ≠ (0 : ℝ × ℝ) := by
    intro h
    obtain ⟨h2, h1⟩ := Prod.mk.inj h
    exact hv (Prod.ext h1 (neg_eq_zero.mp h2))
  have hpos : ‖vector (-v.2, v.1)‖ ≠ 0 := by
    rw [norm_ne_zero_iff]
    exact fun h => hne (congrArg WithLp.ofLp h)
  refine ⟨(r / ‖vector (-v.2, v.1)‖) • (-v.2, v.1), ?_, ?_⟩
  · rw [← dot_eq_inner, dot]
    simp only [Prod.smul_fst, Prod.smul_snd, smul_eq_mul]
    ring
  · show ‖(r / ‖vector (-v.2, v.1)‖) • vector (-v.2, v.1)‖ = r
    rw [norm_smul, Real.norm_eq_abs, abs_of_nonneg (div_nonneg hr (norm_nonneg _)),
      div_mul_cancel₀ _ hpos]

/-- Beside the first end of the line, at the tolerance, the detector is silent. -/
theorem not_within_beside {c : Config ℝ} (hline : c.point1 ≠ c.point2) {w : ℝ × ℝ}
    (hw : ⟪vector w, vector (c.point2 - c.point1)⟫ = 0) (hlen : ‖vector w‖ = c.crossingTolerance) :
    withinTolerance c (c.point1 + w) = false := by
  have hdist : segmentDistance (vector c.point1) (vector c.point2) (vector (c.point1 + w)) =
      c.crossingTolerance := hlen ▸ segmentDistance_perpendicular hw
  rw [withinTolerance, finishLineDistance_eq c hline, hdist]
  exact decide_eq_false (lt_irrefl _)

/-- The clock is known and a competition starts. -/
def raceStart : List (Event ℝ) := [.clock 1 0, .setVehicleFlag "green", .flagTick]

noncomputable def raceState (c : Config ℝ) : State ℝ :=
  started { (init c) with
    currentTime := some ((1 : ℤ) + (0 : ℕ) * (1 / 10 ^ 9)), vehicleFlagParam := "green" }

theorem raceStart_runs (c : Config ℝ) :
    (timerNode c).runFrom (init c) raceStart = some (raceState c) := by
  have hgreen : isGreen (flagOfParam "green") = true := by decide +kernel
  have htick := publishVehicleFlag_start c (s := { (init c) with
    currentTime := some ((1 : ℤ) + (0 : ℕ) * (1 / 10 ^ 9)), vehicleFlagParam := "green" }) hgreen rfl
  rw [raceStart, Machine.runFrom_cons_done _ _ rfl, Machine.runFrom_cons_done _ _ rfl]
  refine (timerNode c).runFrom_cons_iff.mpr ⟨?_, ?_⟩
  · exact congrArg Reply.stop htick
  · exact congrArg some (congrArg Reply.state htick)

theorem raceState_processed (c : Config ℝ) : ∃ now, Processed (raceState c) now := ⟨_, rfl, rfl⟩

/-- A fix outside the tolerance leaves the state as it is and counts nothing. -/
theorem outside_not_counted {c : Config ℝ} (s : State ℝ) {msg : NavSatFix ℝ}
    (hout : withinTolerance c (localPosition c msg) = false) :
    step c s (.gps msg) = .done s [] ∧ ¬ CountsCrossing c s (.gps msg) := by
  have hno : ∀ now, ¬ Detected c s msg now := by
    intro now h
    have hin := ((checkFinishLineCrossing_iff c _ now _).mp h.2).1
    rw [hout] at hin
    cases hin
  refine ⟨?_, ?_⟩
  · rcases gpsCallback_cases c s msg with ⟨-, hr⟩ | ⟨now, hdet, -⟩
    · exact hr
    · exact absurd hdet (hno now)
  · intro h
    obtain ⟨fix, now, he, hdet, -⟩ := h.detected
    cases he
    exact hno now hdet

/-- Two fixes outside the tolerance, one after the other, at the start of a race. -/
theorem outside_consecutive {c : Config ℝ} {a : NavSatFix ℝ} (b : NavSatFix ℝ)
    (hout : withinTolerance c (localPosition c a) = false) :
    ConsecutiveFixes c raceStart [] a b (raceState c) (raceState c) where
  clock := by simp [raceStart, clockReadings]
  reaches₁ := raceStart_runs c
  reaches₂ := by
    have hstep := (outside_not_counted (raceState c) hout).1
    rw [(timerNode c).runFrom_append_of_eq _ (raceStart_runs c)]
    refine (timerNode c).runFrom_cons_iff.mpr ⟨?_, ?_⟩
    · exact congrArg Reply.stop hstep
    · exact congrArg some (congrArg Reply.state hstep)
  consecutive e he := absurd he List.not_mem_nil
  processed₁ := raceState_processed c
  processed₂ := raceState_processed c
  started₁ := by simp [raceState, started]
  started₂ := by simp [raceState, started]
  interval last now hlast := by cases hlast

/-- The length of a move from one side of a point to the other. -/
theorem norm_across (p w : ℝ × ℝ) : Runtime.norm (p + w - (p - w)) = 2 * ‖vector w‖ := by
  have hmove : p + w - (p - w) = (2 : ℝ) • w := by
    rw [two_smul]
    abel
  rw [hmove, norm_eq_norm]
  show ‖(2 : ℝ) • vector w‖ = 2 * ‖vector w‖
  rw [norm_smul, Real.norm_ofNat]

/-- With twice the tolerance or more between the fixes, the vehicle can pass the line halfway between
two of them that both lie at the tolerance. -/
theorem exists_lost {c : Config ℝ} (hline : c.point1 ≠ c.point2) (htol : 0 < c.crossingTolerance)
    (hmap : CoversMap c) {d : ℝ} (hd : 2 * c.crossingTolerance ≤ d) : ¬ NoLapLost c d := by
  obtain ⟨w, hw, hlen⟩ := exists_across (c.point2 - c.point1) (sub_ne_zero.mpr hline.symm) htol.le
  obtain ⟨a, ha⟩ := hmap (c.point1 + w)
  obtain ⟨b, hb⟩ := hmap (c.point1 - w)
  have hout : withinTolerance c (localPosition c a) = false :=
    ha.symm ▸ not_within_beside hline hw hlen
  have hout' : withinTolerance c (localPosition c b) = false := by
    rw [hb, sub_eq_add_neg]
    refine not_within_beside hline ?_ ((norm_neg (vector w)).trans hlen)
    show ⟪-vector w, _⟫ = 0
    rw [inner_neg_left, hw, neg_zero]
  have hclose : Runtime.norm (localPosition c a - localPosition c b) ≤ d := by
    rw [ha, hb, norm_across, hlen]
    exact hd
  have hmeets : (segment ℝ (localPosition c a) (localPosition c b) ∩
      segment ℝ c.point1 c.point2).Nonempty := by
    rw [ha, hb]
    exact ⟨c.point1, mem_segment_add_sub _ _, left_mem_segment ℝ _ _⟩
  intro h
  rcases h raceStart [] a b _ _ (outside_consecutive b hout) hclose hmeets with hcount | hcount
  · exact (outside_not_counted _ hout).2 hcount
  · exact (outside_not_counted _ hout').2 hcount

/-- **No lap is lost.**  Between fixes at most `d` apart no crossing of the finish line goes uncounted
if and only if `d` is less than twice the tolerance. -/
theorem noLapLost_iff (c : Config ℝ) (hline : c.point1 ≠ c.point2) (htol : 0 < c.crossingTolerance)
    (hmap : CoversMap c) (d : ℝ) : NoLapLost c d ↔ d < 2 * c.crossingTolerance := by
  refine ⟨?_, noLapLost_of_lt hline⟩
  intro h
  by_contra hd
  exact exists_lost hline htol hmap (not_lt.mp hd) h

/-! ### The speedway -/

/-- The settings of `LVMS.yaml`, on the ellipsoid. -/
noncomputable def speedway : Config ℝ where
  targetLaps := 10
  vehicleFlag := "red"
  origin := (36.2720726855411, -115.01081305539, 594.959390774912)
  point1 := (-237.66, 180.74)
  point2 := (-253.76, 176.98)
  crossingTolerance := 2
  minCrossingInterval := 10
  geodetic2enu lat lon h lat0 lon0 h0 := GpsToEnu.enuFrom ⟨lat0, lon0, h0⟩ ⟨lat, lon, h⟩

theorem speedway_coversMap : CoversMap speedway := by
  intro p
  obtain ⟨row, hrow⟩ := GpsToEnu.exists_enuFrom
    ⟨speedway.origin.1, speedway.origin.2.1, speedway.origin.2.2⟩ (p.1, p.2, 0)
  refine ⟨⟨row.latitude, row.longitude, row.altitude⟩, ?_⟩
  have haltitude : (if row.altitude ≠ 0 then row.altitude else 0) = row.altitude := by
    by_cases h : row.altitude = 0
    · rw [h, if_neg (fun hne => hne rfl)]
    · exact if_pos h
  rw [localPosition]
  dsimp only
  rw [haltitude]
  show ((GpsToEnu.enuFrom _ row).1, (GpsToEnu.enuFrom _ row).2.1) = p
  rw [hrow]

/-- Fixes four metres apart at the speedway. -/
theorem noLapLost_iff_speedway :
    NoLapLost speedway 4 ↔ (4 : ℝ) < 2 * speedway.crossingTolerance :=
  noLapLost_iff speedway (by norm_num [speedway]) (by norm_num [speedway]) speedway_coversMap 4

end HitchOpen.CompetitionTimer
