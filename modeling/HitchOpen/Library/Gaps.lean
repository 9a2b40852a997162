import Mathlib.Algebra.Group.Basic
import Mathlib.Algebra.BigOperators.Group.List.Basic
import Mathlib.Data.List.Induction
import Mathlib.Tactic.Abel

/-!
# Gaps between consecutive readings

`gaps a ts` lists the differences between consecutive members of `a, t₁, t₂, …`.  There is one gap
for each reading after the first, appending a reading appends one gap, and the gaps telescope: they
add up to the distance from `a` to the last reading.
-/

namespace HitchOpen.Gaps

/-- The last of `a, t₁, t₂, …`. -/
def latest {R : Type*} (a : R) (ts : List R) : R := ts.getLast?.getD a

@[simp] theorem latest_nil {R : Type*} (a : R) : latest a [] = a := rfl

@[simp] theorem latest_cons {R : Type*} (a t : R) (ts : List R) : latest a (t :: ts) = latest t ts := by
  cases ts with
  | nil => rfl
  | cons u us => simp [latest, List.getLast?_cons]

@[simp] theorem latest_concat {R : Type*} (a t : R) (ts : List R) : latest a (ts ++ [t]) = t := by
  simp [latest]

theorem latest_mem_or {R : Type*} (a : R) (ts : List R) : latest a ts = a ∨ latest a ts ∈ ts := by
  induction ts using List.reverseRecOn with
  | nil => exact .inl rfl
  | append_singleton ts t _ =>
      right
      rw [latest_concat]
      simp

variable {R : Type*} [AddCommGroup R]

def gaps (a : R) : List R → List R
  | [] => []
  | t :: ts => (t - a) :: gaps t ts

@[simp] theorem gaps_nil (a : R) : gaps a [] = [] := rfl

theorem gaps_length (a : R) (ts : List R) : (gaps a ts).length = ts.length := by
  induction ts generalizing a with
  | nil => rfl
  | cons t ts ih => rw [gaps, List.length_cons, List.length_cons, ih]

/-- A further reading adds its distance from the latest one. -/
theorem gaps_concat (a t : R) (ts : List R) :
    gaps a (ts ++ [t]) = gaps a ts ++ [t - latest a ts] := by
  induction ts generalizing a with
  | nil => rfl
  | cons u us ih => rw [List.cons_append, gaps, gaps, ih, latest_cons, List.cons_append]

/-- **Telescoping.** -/
theorem gaps_sum (a : R) (ts : List R) : (gaps a ts).sum = latest a ts - a := by
  induction ts generalizing a with
  | nil => simp
  | cons t ts ih =>
      rw [gaps, List.sum_cons, ih, latest_cons]
      abel

end HitchOpen.Gaps
