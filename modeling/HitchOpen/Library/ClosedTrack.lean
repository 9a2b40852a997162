import Mathlib.Algebra.Order.Monoid.Unbundled.Basic
import Mathlib.Algebra.Order.Monoid.Defs
import Mathlib.Data.List.GetD
import Mathlib.Data.List.Rotate
import Mathlib.Data.Nat.Find
import Mathlib.Data.Nat.ModEq
import Mathlib.Order.Monotone.Basic

/-!
# Walks on a closed track

A list can be read as a closed track, on which the last position is followed by the first.
`closedRun` is the stretch from one position forward to another.  A walk from a position pays a price
at every position it comes to, and stops when it has paid enough or would be back at its start.
-/

namespace HitchOpen.ClosedTrack

section Run

variable {α : Type*}

/-- The positions of the closed track `xs` from `first` forward to `last`, both included. -/
def closedRun (xs : List α) (first last : ℕ) : List α :=
  (xs.rotate first).take ((last + xs.length - first) % xs.length + 1)

/-- The `i`-th member lies `i` positions ahead of `first`, modulo the length. -/
theorem closedRun_getElem? {xs : List α} {first last i : ℕ} (hfirst : first < xs.length)
    (hi : i ≤ (last + xs.length - first) % xs.length) :
    (closedRun xs first last)[i]? = xs[(first + i) % xs.length]? := by
  have hlt : i < xs.length :=
    Nat.lt_of_le_of_lt hi (Nat.mod_lt _ (Nat.lt_of_le_of_lt (Nat.zero_le _) hfirst))
  rw [closedRun, List.getElem?_take_of_lt (Nat.lt_succ_of_le hi), List.getElem?_rotate hlt,
    Nat.add_comm i first]

example : closedRun ['a', 'b', 'c', 'd'] 2 0 = ['c', 'd', 'a'] := by decide

/-- After fewer moves than there are positions, the next one leads back to the start only if it
completes the round. -/
theorem ahead_eq_start_iff {n start j : ℕ} (hstart : start < n) (hj : j < n) :
    (start + j + 1) % n = start ↔ j + 1 = n := by
  by_cases hwrap : start + j + 1 < n
  · rw [Nat.mod_eq_of_lt hwrap]
    omega
  · rw [Nat.mod_eq_sub_mod (by omega), Nat.mod_eq_of_lt (by omega)]
    omega

/-- Positions less than a round ahead are different ones. -/
theorem ahead_inj {n start j k : ℕ} (hj : j < n) (hk : k < n)
    (h : (start + j) % n = (start + k) % n) : j = k := by
  have hmod : j % n = k % n := Nat.ModEq.add_left_cancel' start h
  rwa [Nat.mod_eq_of_lt hj, Nat.mod_eq_of_lt hk] at hmod

theorem closedRun_ne_nil {xs : List α} (h : xs ≠ []) (first last : ℕ) :
    closedRun xs first last ≠ [] := by
  intro hnil
  rcases List.take_eq_nil_iff.mp hnil with hzero | hrot
  · exact absurd hzero (Nat.succ_ne_zero _)
  · exact h (List.rotate_eq_nil_iff.mp hrot)

/-- A run that does not pass the end of the list is a slice of it. -/
theorem closedRun_of_le {xs : List α} {first last : ℕ} (hle : first ≤ last)
    (hlast : last < xs.length) : closedRun xs first last = (xs.take (last + 1)).drop first := by
  have hgap : (last + xs.length - first) % xs.length = last - first := by
    have hsplit : last + xs.length - first = (last - first) + xs.length := by omega
    rw [hsplit, Nat.add_mod_right, Nat.mod_eq_of_lt (by omega)]
  have hroom : last - first + 1 ≤ (xs.drop first).length := by
    rw [List.length_drop]
    omega
  rw [closedRun, hgap, List.rotate_eq_drop_append_take (by omega),
    List.take_append_of_le_length hroom, List.drop_take]
  congr 1
  omega

end Run

section Walk

variable {R : Type*}

/-- A walk with the running totals `paid` makes `k` moves: it moves on while the total is short of
`radius`, and makes no more than `limit` moves. -/
structure StopsAfter [LT R] [LE R] (paid : ℕ → R) (radius : R) (limit k : ℕ) : Prop where
  le_limit : k ≤ limit
  short : ∀ j < k, paid j < radius
  stop : k = limit ∨ radius ≤ paid k

/-- How far a walk goes, without naming the number of its moves. -/
theorem StopsAfter.le_iff [LinearOrder R] {paid : ℕ → R} {radius : R} {limit k m : ℕ}
    (h : StopsAfter paid radius limit k) :
    k ≤ m ↔ limit ≤ m ∨ ∃ j ≤ m, radius ≤ paid j := by
  refine ⟨?_, ?_⟩
  · intro hkm
    rcases h.stop with hlimit | hpaid
    · exact .inl (hlimit ▸ hkm)
    · exact .inr ⟨k, hkm, hpaid⟩
  · intro hm
    rcases hm with hlimit | ⟨j, hjm, hpaid⟩
    · exact Nat.le_trans h.le_limit hlimit
    · refine Nat.le_trans (Nat.le_of_not_lt fun hjk => ?_) hjm
      exact absurd (h.short j hjk) (not_lt.mpr hpaid)

/-- When the total does not fall, it is enough to look at its last value. -/
theorem StopsAfter.le_iff_of_monotone [LinearOrder R] {paid : ℕ → R} {radius : R} {limit k m : ℕ}
    (h : StopsAfter paid radius limit k) (hmono : Monotone paid) :
    k ≤ m ↔ limit ≤ m ∨ radius ≤ paid m := by
  rw [h.le_iff]
  refine or_congr Iff.rfl ?_
  refine ⟨?_, ?_⟩
  · rintro ⟨j, hjm, hpaid⟩
    exact hpaid.trans (hmono hjm)
  · intro hpaid
    exact ⟨m, Nat.le_refl m, hpaid⟩

/-- Two walks make the same number of moves exactly when their totals reach their radii together. -/
theorem StopsAfter.eq_iff [LinearOrder R] {paid paid' : ℕ → R} {radius radius' : R} {limit k k' : ℕ}
    (h : StopsAfter paid radius limit k) (h' : StopsAfter paid' radius' limit k')
    (hmono : Monotone paid) (hmono' : Monotone paid') :
    k = k' ↔ ∀ m < limit, (radius ≤ paid m ↔ radius' ≤ paid' m) := by
  have hle : ∀ m < limit, (k ≤ m ↔ radius ≤ paid m) := by
    intro m hm
    rw [h.le_iff_of_monotone hmono, or_iff_right (Nat.not_le.mpr hm)]
  have hle' : ∀ m < limit, (k' ≤ m ↔ radius' ≤ paid' m) := by
    intro m hm
    rw [h'.le_iff_of_monotone hmono', or_iff_right (Nat.not_le.mpr hm)]
  refine ⟨?_, ?_⟩
  · rintro rfl m hm
    rw [← hle m hm, ← hle' m hm]
  · intro hsame
    have hiff : ∀ m < limit, (k ≤ m ↔ k' ≤ m) := fun m hm =>
      (hle m hm).trans ((hsame m hm).trans (hle' m hm).symm)
    have hk := h.le_limit
    have hk' := h'.le_limit
    refine Nat.le_antisymm ?_ ?_
    · rcases Nat.lt_or_ge k' limit with hlt | hge
      · exact (hiff k' hlt).mpr (Nat.le_refl k')
      · exact hk.trans hge
    · rcases Nat.lt_or_ge k limit with hlt | hge
      · exact (hiff k hlt).mp (Nat.le_refl k)
      · exact hk'.trans hge

theorem exists_stopsAfter [LinearOrder R] (paid : ℕ → R) (radius : R) (limit : ℕ) :
    ∃ k, StopsAfter paid radius limit k := by
  have hstop : ∃ k, k = limit ∨ radius ≤ paid k := ⟨limit, .inl rfl⟩
  classical
  refine ⟨Nat.find hstop, Nat.find_min' hstop (.inl rfl), ?_, Nat.find_spec hstop⟩
  intro j hj
  exact not_le.mp fun h => Nat.find_min hstop hj (.inr h)

/-! ### Running totals

A total is built up from the left, one entry at a time, so that nothing here depends on the order in which
exact numbers may be added. -/

section Totals

variable [Add R] [Zero R]

/-- What a walk from `start` has paid after `j` moves, with the price list `ds`. -/
def paid (ds : List R) (start : ℕ) : ℕ → R
  | 0 => 0
  | j + 1 => paid ds start j + ds.getD ((start + j + 1) % ds.length) 0

@[simp] theorem paid_zero (ds : List R) (start : ℕ) : paid ds start 0 = 0 := rfl

theorem paid_succ (ds : List R) (start j : ℕ) :
    paid ds start (j + 1) = paid ds start j + ds.getD ((start + j + 1) % ds.length) 0 := rfl

/-- The total of some entries. -/
def total (ds : List R) : R := ds.foldl (· + ·) 0

/-- Before it passes the end of the list, a walk has paid for the entries after its start in order. -/
theorem paid_eq_total_take {ds : List R} {start j : ℕ} (h : start + j < ds.length) :
    paid ds start j = total ((ds.drop (start + 1)).take j) := by
  induction j with
  | zero => rfl
  | succ j ih =>
      have hlt : start + j + 1 < ds.length := by omega
      have hdrop : j < (ds.drop (start + 1)).length := by
        rw [List.length_drop]
        omega
      have hentry : (ds.drop (start + 1))[j] = ds[start + j + 1] := by
        rw [List.getElem_drop]
        congr 1
        omega
      rw [paid_succ, ih (by omega), Nat.mod_eq_of_lt hlt, List.take_succ_eq_append_getElem hdrop, total,
        total, List.foldl_append, List.getD_eq_getElem _ _ hlt, hentry]
      rfl

/-- A walk stays short of the end of the list when it starts at the front, or when the entries after
its start add up to `radius`. -/
theorem stopsAfter_short_iff [LinearOrder R] {ds : List R} {radius : R} {start k : ℕ}
    (hstart : start < ds.length) (hk : StopsAfter (paid ds start) radius (ds.length - 1) k) :
    start + k < ds.length ↔ start = 0 ∨ ∃ m, radius ≤ total ((ds.drop (start + 1)).take m) := by
  have hroom : start + k < ds.length ↔ k ≤ ds.length - 1 - start := by omega
  rw [hroom, hk.le_iff]
  refine or_congr (by omega) ?_
  refine ⟨?_, ?_⟩
  · intro h
    obtain ⟨j, hj, hpaid⟩ := h
    rw [paid_eq_total_take (by omega)] at hpaid
    exact ⟨j, hpaid⟩
  · intro h
    obtain ⟨m, hm⟩ := h
    refine ⟨min m (ds.length - 1 - start), Nat.min_le_right _ _, ?_⟩
    rw [paid_eq_total_take (by omega)]
    have hlength : (ds.drop (start + 1)).length = ds.length - 1 - start := by
      rw [List.length_drop]
      omega
    rw [← hlength, ← List.take_eq_take_min]
    exact hm

end Totals

theorem paid_monotone [AddCommMonoid R] [LinearOrder R] [IsOrderedAddMonoid R] {ds : List R}
    (h : ∀ d ∈ ds, 0 ≤ d) (start : ℕ) : Monotone (paid ds start) := by
  refine monotone_nat_of_le_succ fun j => ?_
  rw [paid_succ]
  refine le_add_of_nonneg_right ?_
  rw [List.getD_eq_getElem?_getD]
  cases hd : ds[(start + j + 1) % ds.length]? with
  | none => exact le_refl 0
  | some d => exact h d (List.mem_of_getElem? hd)

end Walk

end HitchOpen.ClosedTrack
