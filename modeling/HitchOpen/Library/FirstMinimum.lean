import Mathlib.Order.Lattice
import Mathlib.Data.List.Basic

/-!
# The first minimum of a list

A single pass that replaces its candidate only by a strictly smaller element ends at the first of the
smallest elements.  The pass goes with the part of the list already seen; its invariant is that the
candidate is the first minimum of that part.
-/

namespace HitchOpen.FirstMinimum

variable {α R : Type*} [LinearOrder R]

/-- `i` is the first position at which `f` is smallest on `xs`. -/
def FirstMin (f : α → R) (xs : List α) (i : ℕ) : Prop :=
  ∃ x, xs[i]? = some x ∧ (∀ y ∈ xs, f x ≤ f y) ∧ ∀ y ∈ xs.take i, f x < f y

/-- The pass, with the candidate `best` at position `bestIndex`, about to look at position `i`. -/
def minElementLoop (f : α → R) (best : α) (bestIndex i : ℕ) : List α → ℕ
  | [] => bestIndex
  | y :: ys =>
      if f y < f best then minElementLoop f y i (i + 1) ys
      else minElementLoop f best bestIndex (i + 1) ys

/-- The index that `std::min_element` returns an iterator to; 0, the end, for an empty list. -/
def minElement (f : α → R) : List α → ℕ
  | [] => 0
  | x :: xs => minElementLoop f x 0 1 xs

theorem FirstMin.lt_length {f : α → R} {xs : List α} {i : ℕ} (h : FirstMin f xs i) :
    i < xs.length := by
  obtain ⟨x, hx, -⟩ := h
  exact (List.getElem?_eq_some_iff.mp hx).1

theorem FirstMin.unique {f : α → R} {xs : List α} {i j : ℕ} (hi : FirstMin f xs i)
    (hj : FirstMin f xs j) : i = j := by
  have hle : ∀ {i j : ℕ}, FirstMin f xs i → FirstMin f xs j → j ≤ i := by
    intro i j hi hj
    obtain ⟨x, hx, hmin, -⟩ := hi
    obtain ⟨y, hy, -, hfirst⟩ := hj
    refine Nat.le_of_not_lt fun hlt => ?_
    have hmem : x ∈ xs.take j :=
      List.mem_of_getElem? (i := i) (by rw [List.getElem?_take_of_lt hlt, hx])
    exact absurd (hfirst x hmem) (not_lt.mpr (hmin y (List.mem_of_getElem? hy)))
  exact Nat.le_antisymm (hle hj hi) (hle hi hj)

/-- One more element that is strictly smaller than everything seen is the new first minimum. -/
theorem FirstMin.concat_lt {f : α → R} {xs : List α} {i : ℕ} {x y : α} (h : FirstMin f xs i)
    (hx : xs[i]? = some x) (hlt : f y < f x) : FirstMin f (xs ++ [y]) xs.length := by
  obtain ⟨x', hx', hmin, -⟩ := h
  obtain rfl : x' = x := Option.some.inj (hx'.symm.trans hx)
  refine ⟨y, by simp, ?_, ?_⟩
  · intro z hz
    rcases List.mem_append.mp hz with hz | hz
    · exact (hlt.trans_le (hmin z hz)).le
    · rw [List.mem_singleton.mp hz]
  · intro z hz
    rw [List.take_left] at hz
    exact hlt.trans_le (hmin z hz)

/-- Any other element leaves the first minimum where it is. -/
theorem FirstMin.concat_not_lt {f : α → R} {xs : List α} {i : ℕ} {x y : α} (h : FirstMin f xs i)
    (hx : xs[i]? = some x) (hlt : ¬ f y < f x) : FirstMin f (xs ++ [y]) i := by
  have hi := h.lt_length
  obtain ⟨x', hx', hmin, hfirst⟩ := h
  obtain rfl : x' = x := Option.some.inj (hx'.symm.trans hx)
  refine ⟨x', by rw [List.getElem?_append_left hi, hx], ?_, ?_⟩
  · intro z hz
    rcases List.mem_append.mp hz with hz | hz
    · exact hmin z hz
    · rw [List.mem_singleton.mp hz]
      exact not_lt.mp hlt
  · intro z hz
    rw [List.take_append_of_le_length (Nat.le_of_lt hi)] at hz
    exact hfirst z hz

theorem minElementLoop_firstMin (f : α → R) (rest : List α) :
    ∀ (seen : List α) (best : α) (bestIndex : ℕ), FirstMin f seen bestIndex →
      seen[bestIndex]? = some best →
      FirstMin f (seen ++ rest) (minElementLoop f best bestIndex seen.length rest) := by
  induction rest with
  | nil =>
      intro seen best bestIndex h _
      rw [List.append_nil]
      exact h
  | cons y ys ih =>
      intro seen best bestIndex h hbest
      have hlen : (seen ++ [y]).length = seen.length + 1 := by simp
      rw [minElementLoop, List.append_cons seen y ys, ← hlen]
      by_cases hlt : f y < f best
      · rw [if_pos hlt]
        exact ih (seen ++ [y]) y seen.length (h.concat_lt hbest hlt) (by simp)
      · rw [if_neg hlt]
        refine ih (seen ++ [y]) best bestIndex (h.concat_not_lt hbest hlt) ?_
        rw [List.getElem?_append_left h.lt_length, hbest]

/-- **The pass finds the first minimum.** -/
theorem minElement_firstMin (f : α → R) {xs : List α} (h : xs ≠ []) :
    FirstMin f xs (minElement f xs) := by
  cases xs with
  | nil => exact absurd rfl h
  | cons x xs =>
      have hx : FirstMin f [x] 0 := ⟨x, rfl, by simp, by simp⟩
      exact minElementLoop_firstMin f xs [x] x 0 hx rfl

end HitchOpen.FirstMinimum
