import Mathlib.Analysis.InnerProductSpace.Basic
import Mathlib.Analysis.Normed.Affine.Convex

/-!
# The distance to a segment

A program that needs the distance from a point to a segment projects the point onto the line through
the two ends and looks where the foot lies: before the first end, beyond the second or in between.
`segmentDistance` is that computation in a real inner product space, and `segmentDistance_lt_iff` says
that it is the distance to the closest point of the segment.

A point that moves across a segment is closer to it than half the way at one of the two ends of its
move (`near_an_end`), and no bound below that would do (`segmentDistance_perpendicular`).
-/

namespace HitchOpen.SegmentDistance

open scoped RealInnerProductSpace

variable {E : Type*} [NormedAddCommGroup E] [InnerProductSpace ℝ E]

/-- Where the foot of the perpendicular from `p` lies on the line through `a` and `b`: at 0 in `a`, at
1 in `b`. -/
noncomputable def projection (a b p : E) : ℝ := ⟪p - a, b - a⟫ / ⟪b - a, b - a⟫

noncomputable def segmentDistance (a b p : E) : ℝ :=
  if projection a b p < 0 then ‖p - a‖
  else if projection a b p > 1 then ‖p - b‖
  else ‖p - a - projection a b p • (b - a)‖

/-- The parameter of the point of the segment that is closest to `p`. -/
noncomputable def closest (a b p : E) : ℝ := max 0 (min 1 (projection a b p))

theorem closest_mem (a b p : E) : closest a b p ∈ Set.Icc (0 : ℝ) 1 :=
  ⟨le_max_left _ _, max_le zero_le_one (min_le_left _ _)⟩

theorem segmentDistance_eq (a b p : E) :
    segmentDistance a b p = ‖p - a - closest a b p • (b - a)‖ := by
  rw [segmentDistance, closest]
  by_cases h0 : projection a b p < 0
  · rw [if_pos h0, min_eq_right (by linarith), max_eq_left h0.le, zero_smul, sub_zero]
  · rw [if_neg h0]
    by_cases h1 : projection a b p > 1
    · rw [if_pos h1, min_eq_left h1.le, max_eq_right zero_le_one, one_smul, sub_sub_sub_cancel_right]
    · rw [if_neg h1, min_eq_right (not_lt.mp h1), max_eq_right (not_lt.mp h0)]

/-- The squared distance to a point of the line grows with the square of the distance to the foot. -/
theorem norm_sub_smul_sq {a b : E} (hab : a ≠ b) (p : E) (t : ℝ) :
    ‖p - a - t • (b - a)‖ ^ 2 =
      ‖p - a - projection a b p • (b - a)‖ ^ 2 + (t - projection a b p) ^ 2 * ‖b - a‖ ^ 2 := by
  have hne : ⟪b - a, b - a⟫ ≠ 0 := inner_self_ne_zero.mpr (sub_ne_zero.mpr hab.symm)
  have hfoot : ⟪p - a, b - a⟫ = projection a b p * ‖b - a‖ ^ 2 := by
    rw [← real_inner_self_eq_norm_sq, projection, div_mul_cancel₀ _ hne]
  have hsq : ∀ s : ℝ, ‖p - a - s • (b - a)‖ ^ 2 =
      ‖p - a‖ ^ 2 - 2 * (s * ⟪p - a, b - a⟫) + s ^ 2 * ‖b - a‖ ^ 2 := by
    intro s
    rw [norm_sub_sq_real, real_inner_smul_right, norm_smul, mul_pow, Real.norm_eq_abs, sq_abs]
  rw [hsq t, hsq (projection a b p), hfoot]
  ring

/-- Among the parameters of the segment `closest` is the nearest to the foot. -/
theorem closest_nearest (a b p : E) {t : ℝ} (ht : t ∈ Set.Icc (0 : ℝ) 1) :
    (closest a b p - projection a b p) ^ 2 ≤ (t - projection a b p) ^ 2 := by
  obtain ⟨h0, h1⟩ := ht
  rw [closest]
  rcases le_total (projection a b p) 0 with hbefore | hafter
  · rw [min_eq_right (by linarith), max_eq_left hbefore]
    exact sq_le_sq' (by linarith) (by linarith)
  · rcases le_total (projection a b p) 1 with hinside | hpast
    · rw [min_eq_right hinside, max_eq_right hafter, sub_self, zero_pow two_ne_zero]
      exact sq_nonneg _
    · rw [min_eq_left hpast, max_eq_right zero_le_one]
      rw [← neg_sq (1 - projection a b p), ← neg_sq (t - projection a b p)]
      exact pow_le_pow_left₀ (by linarith) (by linarith) 2

/-- **The computed distance is the distance to the segment.** -/
theorem segmentDistance_le {a b : E} (hab : a ≠ b) (p : E) {t : ℝ} (ht : t ∈ Set.Icc (0 : ℝ) 1) :
    segmentDistance a b p ≤ ‖p - a - t • (b - a)‖ := by
  rw [segmentDistance_eq]
  refine le_of_sq_le_sq ?_ (norm_nonneg _)
  rw [norm_sub_smul_sq hab p (closest a b p), norm_sub_smul_sq hab p t]
  have hnear := closest_nearest a b p ht
  have hnonneg : 0 ≤ ‖b - a‖ ^ 2 := sq_nonneg _
  have := mul_le_mul_of_nonneg_right hnear hnonneg
  linarith

theorem segmentDistance_lt_iff {a b : E} (hab : a ≠ b) (p : E) {r : ℝ} :
    segmentDistance a b p < r ↔ ∃ x ∈ segment ℝ a b, ‖p - x‖ < r := by
  have hpoint : ∀ t : ℝ, p - a - t • (b - a) = p - (a + t • (b - a)) := fun t => sub_sub _ _ _
  rw [segment_eq_image']
  refine ⟨?_, ?_⟩
  · intro h
    rw [segmentDistance_eq, hpoint] at h
    exact ⟨_, ⟨closest a b p, closest_mem a b p, rfl⟩, h⟩
  · intro h
    obtain ⟨x, ⟨t, ht, rfl⟩, hx⟩ := h
    refine lt_of_le_of_lt (segmentDistance_le hab p ht) ?_
    rw [hpoint]
    exact hx

/-- Beside the first end the distance is the length of the perpendicular. -/
theorem segmentDistance_perpendicular {a b v : E} (hv : ⟪v, b - a⟫ = 0) :
    segmentDistance a b (a + v) = ‖v‖ := by
  have hfoot : projection a b (a + v) = 0 := by
    rw [projection, add_sub_cancel_left, hv, zero_div]
  rw [segmentDistance, hfoot, if_neg (lt_irrefl 0), if_neg (by norm_num), zero_smul, sub_zero,
    add_sub_cancel_left]

/-- **Near one of the ends.**  A move across a point starts or stops within half its length of it. -/
theorem near_an_end {x y z : E} {r : ℝ} (hz : z ∈ segment ℝ x y) (h : ‖x - y‖ < 2 * r) :
    ‖x - z‖ < r ∨ ‖y - z‖ < r := by
  have hsum : dist x z + dist z y = dist x y := dist_add_dist_of_mem_segment hz
  rw [dist_eq_norm, dist_comm z y, dist_eq_norm, dist_eq_norm] at hsum
  by_contra hfar
  push Not at hfar
  linarith [hfar.1, hfar.2]

end HitchOpen.SegmentDistance
