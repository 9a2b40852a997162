import Mathlib.Data.List.Basic

/-!
# Chains of tests

A chain of `if`s returns the value that goes with the first test that holds, or a fallback when none
does.  `firstMatch` is such a chain for the rows of a table.
-/

namespace HitchOpen.FirstMatch

variable {κ α : Type*}

/-- The value in the first row whose key passes the test. -/
def firstMatch (test : κ → Bool) (fallback : α) : List (κ × α) → α
  | [] => fallback
  | (key, value) :: rows => if test key then value else firstMatch test fallback rows

theorem firstMatch_congr {test test' : κ → Bool} {fallback : α} {rows : List (κ × α)}
    (h : ∀ row ∈ rows, test row.1 = test' row.1) :
    firstMatch test fallback rows = firstMatch test' fallback rows := by
  induction rows with
  | nil => rfl
  | cons row rows ih =>
      obtain ⟨hrow, hrows⟩ := List.forall_mem_cons.mp h
      obtain ⟨key, value⟩ := row
      rw [firstMatch, firstMatch, ih hrows, show test key = test' key from hrow]

/-- Without a test that holds the chain falls through. -/
theorem firstMatch_fallback {test : κ → Bool} {fallback : α} {rows : List (κ × α)}
    (h : ∀ row ∈ rows, test row.1 = false) : firstMatch test fallback rows = fallback := by
  induction rows with
  | nil => rfl
  | cons row rows ih =>
      obtain ⟨hrow, hrows⟩ := List.forall_mem_cons.mp h
      obtain ⟨key, value⟩ := row
      rw [firstMatch, if_neg (by simpa using hrow), ih hrows]

/-- With one the chain stops at the first. -/
theorem firstMatch_first (test : κ → Bool) (fallback : α) {rows : List (κ × α)}
    (h : ∃ row ∈ rows, test row.1 = true) :
    ∃ before row after, rows = before ++ row :: after ∧ (∀ b ∈ before, test b.1 = false) ∧
      test row.1 = true ∧ firstMatch test fallback rows = row.2 := by
  induction rows with
  | nil =>
      obtain ⟨row, hrow, -⟩ := h
      exact absurd hrow List.not_mem_nil
  | cons row rows ih =>
      cases htest : test row.1 with
      | true => exact ⟨[], row, rows, rfl, List.forall_mem_nil _, htest, if_pos htest⟩
      | false =>
          have hrest : ∃ row ∈ rows, test row.1 = true := by
            obtain ⟨row', hmem, hrow'⟩ := h
            rcases List.mem_cons.mp hmem with rfl | hmem
            · rw [htest] at hrow'
              cases hrow'
            · exact ⟨row', hmem, hrow'⟩
          obtain ⟨before, row', after, rfl, hbefore, hrow', hvalue⟩ := ih hrest
          refine ⟨row :: before, row', after, rfl, ?_, hrow', ?_⟩
          · exact List.forall_mem_cons.mpr ⟨htest, hbefore⟩
          · rw [firstMatch, if_neg (by simp [htest])]
            exact hvalue

/-- What is not the fallback is the value of a row whose test holds. -/
theorem firstMatch_mem {test : κ → Bool} {fallback : α} {rows : List (κ × α)}
    (h : firstMatch test fallback rows ≠ fallback) :
    ∃ row ∈ rows, test row.1 = true ∧ firstMatch test fallback rows = row.2 := by
  by_cases hany : ∃ row ∈ rows, test row.1 = true
  · obtain ⟨before, row, after, heq, -, htest, hvalue⟩ := firstMatch_first test fallback hany
    refine ⟨row, ?_, htest, hvalue⟩
    rw [heq]
    exact List.mem_append_right before List.mem_cons_self
  · push Not at hany
    exact absurd (firstMatch_fallback fun row hrow => eq_false_of_ne_true (hany row hrow)) h

/-- When no row has the fallback, the chain returns it only by falling through. -/
theorem firstMatch_eq_fallback_iff {test : κ → Bool} {fallback : α} {rows : List (κ × α)}
    (hrows : ∀ row ∈ rows, row.2 ≠ fallback) :
    firstMatch test fallback rows = fallback ↔ ∀ row ∈ rows, test row.1 = false := by
  refine ⟨?_, firstMatch_fallback⟩
  intro h row hrow
  by_contra htest
  obtain ⟨before, row', after, heq, -, -, hvalue⟩ :=
    firstMatch_first test fallback ⟨row, hrow, eq_true_of_ne_false htest⟩
  refine hrows row' ?_ (hvalue.symm.trans h)
  rw [heq]
  exact List.mem_append_right before List.mem_cons_self

end HitchOpen.FirstMatch
