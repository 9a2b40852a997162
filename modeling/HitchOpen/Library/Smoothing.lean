import Mathlib.Data.List.ReduceOption
import Mathlib.Order.Lattice

/-!
# Outputs that follow their samples

A smoother moves its output towards the sample it is given, and leaves it alone when the sample is
missing.  Whatever else is in its state, its output then stays between the smallest and the largest of
its first value and the samples it has seen.
-/

namespace HitchOpen.Smoothing

variable {R : Type*} [LinearOrder R]

/-- The smallest of a value and the samples that are there. -/
def smallest (y : R) (samples : List (Option R)) : R := samples.reduceOption.foldr min y

def largest (y : R) (samples : List (Option R)) : R := samples.reduceOption.foldr max y

theorem smallest_le (y : R) (samples : List (Option R)) : smallest y samples ≤ y := by
  rw [smallest]
  induction samples.reduceOption with
  | nil => exact le_refl y
  | cons x xs ih => exact (min_le_right x _).trans ih

theorem smallest_le_of_mem {y x : R} {samples : List (Option R)} (h : some x ∈ samples) :
    smallest y samples ≤ x := by
  rw [← List.reduceOption_mem_iff] at h
  rw [smallest]
  generalize samples.reduceOption = xs at h ⊢
  induction xs with
  | nil => exact absurd h List.not_mem_nil
  | cons x' xs ih =>
      rcases List.mem_cons.mp h with rfl | hmem
      · exact min_le_left x _
      · exact (min_le_right x' _).trans (ih hmem)

/-- In the opposite order the largest value is the smallest. -/
theorem le_largest (y : R) (samples : List (Option R)) : y ≤ largest y samples :=
  smallest_le (R := Rᵒᵈ) y samples

theorem le_largest_of_mem {y x : R} {samples : List (Option R)} (h : some x ∈ samples) :
    x ≤ largest y samples :=
  smallest_le_of_mem (R := Rᵒᵈ) h

/-- The output goes from `y` to `y'`, no further than the sample. -/
def Towards (y y' : R) : Option R → Prop
  | none => y' = y
  | some x => min y x ≤ y' ∧ y' ≤ max y x

variable {S I : Type*}

/-- In the states with `inv`, an update with a valid input moves the output towards the sample. -/
structure Follows (update : S → I → S) (output : S → R) (sample : I → Option R) (inv : S → Prop)
    (valid : I → Prop) : Prop where
  keeps : ∀ s i, inv s → valid i → inv (update s i)
  towards : ∀ s i, inv s → valid i → Towards (output s) (output (update s i)) (sample i)

variable {update : S → I → S} {output : S → R} {sample : I → Option R} {inv : S → Prop}
  {valid : I → Prop}

/-- **Run lemma.**  Bounds on the output and all samples are bounds on what the output becomes. -/
theorem Follows.foldl_mem (h : Follows update output sample inv valid) {lo hi : R} (is : List I) :
    ∀ s, inv s → (∀ i ∈ is, valid i) → lo ≤ output s → output s ≤ hi →
      (∀ i ∈ is, ∀ x, sample i = some x → lo ≤ x ∧ x ≤ hi) →
      lo ≤ output (is.foldl update s) ∧ output (is.foldl update s) ≤ hi := by
  induction is with
  | nil =>
      intro s _ _ hlo hhi _
      exact ⟨hlo, hhi⟩
  | cons i is ih =>
      intro s hs hvalid hlo hhi hsamples
      obtain ⟨hi, his⟩ := List.forall_mem_cons.mp hvalid
      obtain ⟨hx, hxs⟩ := List.forall_mem_cons.mp hsamples
      have hstep := h.towards s i hs hi
      cases hsample : sample i with
      | none =>
          rw [hsample] at hstep
          have heq : output (update s i) = output s := hstep
          exact ih (update s i) (h.keeps s i hs hi) his (heq ▸ hlo) (heq ▸ hhi) hxs
      | some x =>
          rw [hsample] at hstep
          obtain ⟨hlow, hhigh⟩ := hstep
          obtain ⟨hlox, hxhi⟩ := hx x hsample
          apply ih (update s i) (h.keeps s i hs hi) his _ _ hxs
          · exact (le_min hlo hlox).trans hlow
          · exact hhigh.trans (max_le hhi hxhi)

/-- **The output stays between the smallest and the largest value it has been given.** -/
theorem Follows.between (h : Follows update output sample inv valid) {s : S} (hs : inv s)
    {is : List I} (hvalid : ∀ i ∈ is, valid i) :
    smallest (output s) (is.map sample) ≤ output (is.foldl update s) ∧
      output (is.foldl update s) ≤ largest (output s) (is.map sample) := by
  apply h.foldl_mem is s hs hvalid (smallest_le _ _) (le_largest _ _)
  intro i hi x hx
  have hmem : some x ∈ is.map sample := List.mem_map.mpr ⟨i, hi, hx⟩
  exact ⟨smallest_le_of_mem hmem, le_largest_of_mem hmem⟩

end HitchOpen.Smoothing
