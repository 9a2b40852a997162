import HitchOpen.Common.Reals
import HitchOpen.CompetitionTimer.FinishLinePassages
import HitchOpen.Library.SegmentDistance
import Mathlib.Analysis.InnerProductSpace.ProdL2

/-!
# The finish line in the plane

In exact real arithmetic the vectors that the timer computes with are those of the Euclidean plane:
`np.dot` is the inner product and `np.linalg.norm` the norm.  What `check_finish_line_crossing` compares
with the tolerance is therefore the distance to the finish line, a segment: `crossing_detected_iff` says
in coordinates when it detects a crossing.
-/

namespace HitchOpen.CompetitionTimer

open HitchOpen.Runtime HitchOpen.SegmentDistance
open scoped RealInnerProductSpace

/-- The plane with its Euclidean norm. -/
abbrev Plane := WithLp 2 (ℝ × ℝ)

/-- A pair of coordinates as a vector. -/
abbrev vector (p : ℝ × ℝ) : Plane := WithLp.toLp 2 p

theorem dot_eq_inner (p q : ℝ × ℝ) : dot p q = ⟪vector p, vector q⟫ := by
  rw [WithLp.prod_inner_apply, dot]
  simp [mul_comm]

theorem norm_eq_norm (p : ℝ × ℝ) : Runtime.norm p = ‖vector p‖ := by
  rw [Runtime.norm, dot_eq_inner, sqrt_real, real_inner_self_eq_norm_sq,
    Real.sqrt_sq (norm_nonneg _)]

theorem vector_mem_segment_iff {a b x : ℝ × ℝ} :
    vector x ∈ segment ℝ (vector a) (vector b) ↔ x ∈ segment ℝ a b := by
  refine ⟨?_, ?_⟩
  · intro h
    obtain ⟨s, t, hs, ht, hst, hx⟩ := h
    exact ⟨s, t, hs, ht, hst, congrArg WithLp.ofLp hx⟩
  · intro h
    obtain ⟨s, t, hs, ht, hst, rfl⟩ := h
    exact ⟨s, t, hs, ht, hst, rfl⟩

theorem finishLineDistance_eq (c : Config ℝ) (hline : c.point1 ≠ c.point2) (p : ℝ × ℝ) :
    finishLineDistance c p =
      some (segmentDistance (vector c.point1) (vector c.point2) (vector p)) := by
  have hne : dot (c.point2 - c.point1) (c.point2 - c.point1) ≠ 0 := by
    rw [dot_eq_inner, inner_self_ne_zero]
    intro h
    exact hline (sub_eq_zero.mp (congrArg WithLp.ofLp h)).symm
  have hfoot : dot (p - c.point1) (c.point2 - c.point1) /
      dot (c.point2 - c.point1) (c.point2 - c.point1) =
        projection (vector c.point1) (vector c.point2) (vector p) := by
    rw [dot_eq_inner, dot_eq_inner]
    rfl
  rw [finishLineDistance]
  dsimp only
  rw [if_neg hne, hfoot, segmentDistance]
  -- the same three cases on both sides
  by_cases h0 : projection (vector c.point1) (vector c.point2) (vector p) < 0
  · rw [if_pos h0, if_pos h0, norm_eq_norm]
    rfl
  · rw [if_neg h0, if_neg h0]
    by_cases h1 : projection (vector c.point1) (vector c.point2) (vector p) > 1
    · rw [if_pos h1, if_pos h1, norm_eq_norm]
      rfl
    · rw [if_neg h1, if_neg h1, norm_eq_norm]
      rfl

/-- **The detector.**  A position is within the tolerance when a point of the finish line is closer to
it than that. -/
theorem withinTolerance_iff (c : Config ℝ) (hline : c.point1 ≠ c.point2) (p : ℝ × ℝ) :
    withinTolerance c p = true ↔
      ∃ x ∈ segment ℝ c.point1 c.point2, Runtime.norm (p - x) < c.crossingTolerance := by
  have hne : vector c.point1 ≠ vector c.point2 := fun h => hline (congrArg WithLp.ofLp h)
  rw [withinTolerance, finishLineDistance_eq c hline]
  rw [decide_eq_true_iff, segmentDistance_lt_iff hne]
  refine ⟨?_, ?_⟩
  · intro h
    obtain ⟨x, hx, hlt⟩ := h
    refine ⟨x.ofLp, vector_mem_segment_iff.mp hx, ?_⟩
    rw [norm_eq_norm]
    exact hlt
  · intro h
    obtain ⟨x, hx, hlt⟩ := h
    rw [norm_eq_norm] at hlt
    exact ⟨vector x, vector_mem_segment_iff.mpr hx, hlt⟩

theorem mem_segment_iff {a b x : ℝ × ℝ} :
    x ∈ segment ℝ a b ↔ ∃ t, 0 ≤ t ∧ t ≤ 1 ∧ x = (a.1 + t * (b.1 - a.1), a.2 + t * (b.2 - a.2)) := by
  rw [segment_eq_image']
  refine ⟨?_, ?_⟩
  · rintro ⟨t, ⟨h0, h1⟩, rfl⟩
    exact ⟨t, h0, h1, rfl⟩
  · rintro ⟨t, h0, h1, rfl⟩
    exact ⟨t, ⟨h0, h1⟩, rfl⟩

theorem norm_sub_eq (p q : ℝ × ℝ) :
    Runtime.norm (p - q) = Real.sqrt ((p.1 - q.1) ^ 2 + (p.2 - q.2) ^ 2) := by
  rw [Runtime.norm, sqrt_real, dot, Prod.fst_sub, Prod.snd_sub, ← pow_two, ← pow_two]

/-- **Crossings.**  A position is a crossing exactly when the last crossing is not too recent and some
point of the finish line is closer than the tolerance. -/
theorem crossing_detected_iff (c : Config ℝ) (hline : c.point1 ≠ c.point2)
    (lastCrossingTime : Option ℝ) (currentTime x y : ℝ) :
    checkFinishLineCrossing c lastCrossingTime currentTime (x, y) = true ↔
      (lastCrossingTime = none ∨
        ∃ last, lastCrossingTime = some last ∧ c.minCrossingInterval ≤ currentTime - last) ∧
      ∃ t, 0 ≤ t ∧ t ≤ 1 ∧
        Real.sqrt ((x - (c.point1.1 + t * (c.point2.1 - c.point1.1))) ^ 2 +
          (y - (c.point1.2 + t * (c.point2.2 - c.point1.2))) ^ 2) < c.crossingTolerance := by
  rw [checkFinishLineCrossing_iff, and_comm]
  refine and_congr ?_ ?_
  · cases lastCrossingTime with
    | none => simp
    | some last => simp
  · rw [withinTolerance_iff c hline]
    refine ⟨?_, ?_⟩
    · rintro ⟨q, hq, hlt⟩
      obtain ⟨t, h0, h1, rfl⟩ := mem_segment_iff.mp hq
      rw [norm_sub_eq] at hlt
      exact ⟨t, h0, h1, hlt⟩
    · rintro ⟨t, h0, h1, hlt⟩
      refine ⟨_, mem_segment_iff.mpr ⟨t, h0, h1, rfl⟩, ?_⟩
      rw [norm_sub_eq]
      exact hlt

/-- A finish line across the start of a straight, ten metres wide, with a tolerance of two. -/
def straight : Config ℝ where
  targetLaps := 10
  vehicleFlag := "red"
  origin := (0, 0, 0)
  point1 := (0, -5)
  point2 := (0, 5)
  crossingTolerance := 2
  minCrossingInterval := 10
  geodetic2enu lat lon h _ _ _ := (lon, lat, h)

/-- One metre past the end of the line, and one ahead of it, fifteen seconds after a crossing. -/
theorem straight_detected : checkFinishLineCrossing straight (some 5) 20 (1, 6) = true := by
  refine (crossing_detected_iff straight (fun h => ?_) (some 5) 20 1 6).mpr ⟨.inr ⟨5, rfl, ?_⟩, ?_⟩
  · have h2 : (-5 : ℝ) = 5 := congrArg Prod.snd h
    norm_num at h2
  · show (10 : ℝ) ≤ 20 - 5
    norm_num
  · refine ⟨1, zero_le_one, le_refl 1, ?_⟩
    show Real.sqrt ((1 - (0 + 1 * (0 - 0))) ^ 2 + (6 - (-5 + 1 * (5 - -5))) ^ 2) < 2
    rw [Real.sqrt_lt' two_pos]
    norm_num

end HitchOpen.CompetitionTimer
