import Mathlib.Data.List.AList

/-!
# Memo tables

A computation that keeps what it has found in a table answers like one that computes everything again, as
long as the table is right.  `Computes P m r` says this of a computation `m` with a state: wherever the
invariant `P` of the state holds, `m` answers `r` and `P` holds again.  It is closed under sequencing, and
`computes_fetch` is the rule for looking into a table first.
-/

namespace HitchOpen.Memo

variable {κ ν σ α β : Type}

/-! ### Tables -/

/-- A table with one value at most for every key. -/
abbrev Table (κ ν : Type) := AList fun _ : κ => ν

/-- What the table holds is what `f` computes. -/
def Sound [DecidableEq κ] (t : Table κ ν) (f : κ → Option ν) : Prop :=
  ∀ k v, t.lookup k = some v → f k = some v

theorem sound_empty [DecidableEq κ] (f : κ → Option ν) : Sound (∅ : Table κ ν) f := by
  intro k v h
  cases h

theorem Sound.insert [DecidableEq κ] {t : Table κ ν} {f : κ → Option ν} (ht : Sound t f) {k : κ} {v : ν}
    (hv : f k = some v) : Sound (AList.insert k v t) f := by
  intro k' v' hfind
  by_cases hk : k' = k
  · subst hk
    rw [AList.lookup_insert] at hfind
    rw [hv, Option.some.inj hfind]
  · rw [AList.lookup_insert_ne hk] at hfind
    exact ht k' v' hfind

/-! ### Computations with tables -/

/-- A computation that may find nothing, with a state. -/
abbrev Search (σ α : Type) := OptionT (StateM σ) α

/-- An answer that takes no state. -/
def Search.ofOption (o : Option α) : Search σ α := OptionT.mk (pure o)

/-- From a state with `P` it answers `r`, and `P` holds of the state in which it ends. -/
def Computes (P : σ → Prop) (m : Search σ α) (r : Option α) : Prop :=
  ∀ s, P s → (m.run.run s).1 = r ∧ P (m.run.run s).2

variable {P : σ → Prop}

theorem computes_pure (a : α) : Computes P (pure a) (some a) := fun _ h => ⟨rfl, h⟩

theorem computes_ofOption (o : Option α) : Computes P (.ofOption o) o := fun _ h => ⟨rfl, h⟩

theorem Computes.bind {m : Search σ α} {r : Option α} {f : α → Search σ β} {g : α → Option β}
    (hm : Computes P m r) (hf : ∀ a, Computes P (f a) (g a)) : Computes P (m >>= f) (r.bind g) := by
  intro s hs
  obtain ⟨hr, hP⟩ := hm s hs
  have hrun : ((m >>= f).run.run s) = match (m.run.run s).1 with
      | some a => (f a).run.run (m.run.run s).2
      | none => (none, (m.run.run s).2) := by
    show (match m.run.run s with
      | (o, s') => (match o with
        | some a => (f a).run
        | none => pure none : StateM σ (Option β)).run s') = _
    rcases m.run.run s with ⟨_ | a, s'⟩ <;> rfl
  rw [hrun, hr]
  cases r with
  | none => exact ⟨rfl, hP⟩
  | some a => exact hf a _ hP

/-- What the table says, or else what is computed, which then goes into the table. -/
def fetch [DecidableEq κ] (table : σ → Table κ ν) (store : Table κ ν → σ → σ) (compute : Search σ ν)
    (k : κ) : Search σ ν := do
  let s ← get
  match (table s).lookup k with
  | some v => return v
  | none => do
      let v ← compute
      modify fun s => store ((table s).insert k v) s
      return v

theorem fetch_hit [DecidableEq κ] {table : σ → Table κ ν} (store : Table κ ν → σ → σ)
    (compute : Search σ ν) {k : κ} {v : ν} {s : σ} (h : (table s).lookup k = some v) :
    (fetch table store compute k).run.run s = (some v, s) := by
  show ((match (table s).lookup k with
    | some v => return v
    | none => do
        let v ← compute
        modify fun s => store ((table s).insert k v) s
        return v : Search σ ν).run.run s) = _
  rw [h]
  rfl

theorem fetch_miss [DecidableEq κ] {table : σ → Table κ ν} (store : Table κ ν → σ → σ)
    (compute : Search σ ν) {k : κ} {s : σ} (h : (table s).lookup k = none) :
    (fetch table store compute k).run.run s = match compute.run.run s with
      | (some v, s') => (some v, store ((table s').insert k v) s')
      | (none, s') => (none, s') := by
  show ((match (table s).lookup k with
    | some v => return v
    | none => do
        let v ← compute
        modify fun s => store ((table s).insert k v) s
        return v : Search σ ν).run.run s) = _
  rw [h]
  show (match compute.run.run s with
    | (o, s') => (match o with
      | some a => ((do
          modify fun s => store ((table s).insert k a) s
          return a : Search σ ν)).run
      | none => pure none : StateM σ (Option ν)).run s') = _
  rcases compute.run.run s with ⟨_ | v, s'⟩ <;> rfl

/-- **Memo rule.**  Looking into the table first changes nothing, if the table is right and `P` holds again
once the table has been filled. -/
theorem computes_fetch [DecidableEq κ] {table : σ → Table κ ν} {store : Table κ ν → σ → σ}
    {compute : Search σ ν} {f : κ → Option ν} {k : κ} (hsound : ∀ s, P s → Sound (table s) f)
    (hcompute : ∀ s, P s → (table s).lookup k = none → (compute.run.run s).1 = f k)
    (hfail : ∀ s, P s → (table s).lookup k = none → f k = none → P (compute.run.run s).2)
    (hstore : ∀ s v, P s → (table s).lookup k = none → f k = some v →
      P (store ((table (compute.run.run s).2).insert k v) (compute.run.run s).2)) :
    Computes P (fetch table store compute k) (f k) := by
  intro s hs
  cases hfind : (table s).lookup k with
  | some v =>
      rw [fetch_hit store compute hfind, hsound s hs k v hfind]
      exact ⟨rfl, hs⟩
  | none =>
      have hanswer := hcompute s hs hfind
      rw [fetch_miss store compute hfind]
      cases hf : f k with
      | none =>
          have hP := hfail s hs hfind hf
          rw [hf] at hanswer
          rcases hrun : compute.run.run s with ⟨o, s'⟩
          rw [hrun] at hanswer hP
          obtain rfl : o = none := hanswer
          exact ⟨rfl, hP⟩
      | some v =>
          have hP := hstore s v hs hfind hf
          rw [hf] at hanswer
          rcases hrun : compute.run.run s with ⟨o, s'⟩
          rw [hrun] at hanswer hP
          obtain rfl : o = some v := hanswer
          exact ⟨rfl, hP⟩

end HitchOpen.Memo
