import HitchOpen.Library.EventMachine

/-!
# Comparing two runs

Some events of a machine may be invisible to an observer: handling one changes nothing the observer
can see.  `runFrom_filter` compares a run with the run in which all such events are left out, and
`runFrom_rel_of_filter_eq` any two runs that agree once they are left out: what the observer sees of
the two is the same, in the states they reach and in whether they reach one at all.

`runFrom_lockstep` compares two runs that handle events of the same kind in the same order.

The observer is a relation `E` between states; `C` is a condition on the steps of the runs, under which
what is said to be invisible is.
-/

namespace HitchOpen.EventMachine.Machine

variable {σ ε ω φ : Type*} (m : Machine σ ε ω φ)

/-- A condition met along a run is met along every part of it from the start. -/
theorem EachStep.of_prefix {m : Machine σ ε ω φ} {s₀ : σ} {pre es : List ε} {C : σ → ε → Prop}
    (h : m.EachStep s₀ es C) (hpre : pre <+: es) : m.EachStep s₀ pre C :=
  fun p e s hp hrun => h p e s (hp.trans hpre) hrun

theorem rel_of_rel_right {E : σ → σ → Prop} (hsymm : ∀ s t, E s t → E t s)
    (htrans : ∀ s t u, E s t → E t u → E s u) {a b c : Option σ}
    (h₁ : Option.Rel E a c) (h₂ : Option.Rel E b c) : Option.Rel E a b := by
  cases h₁ with
  | none =>
      cases h₂
      exact .none
  | some hu =>
      cases h₂ with
      | some hv => exact .some (htrans _ _ _ hu (hsymm _ _ hv))

/-- Leaving out the invisible events of a run does not change what is seen of it. -/
theorem runFrom_filter {E : σ → σ → Prop} {C : σ → ε → Prop} {keep : ε → Bool}
    (hskip : ∀ s t e, E s t → C s e → keep e = false →
      (m.step s e).stop = none ∧ E (m.step s e).state t)
    (hkeep : ∀ s t e, E s t → C s e → keep e = true →
      (m.step s e).stop = (m.step t e).stop ∧ E (m.step s e).state (m.step t e).state)
    {s t : σ} {es : List ε} (h : E s t) (hC : m.EachStep s es C) :
    Option.Rel E (m.runFrom s es) (m.runFrom t (es.filter keep)) := by
  induction es generalizing s t with
  | nil => exact .some h
  | cons e es ih =>
      obtain ⟨hc, hrest⟩ := m.eachStep_cons.mp hC
      cases hk : keep e with
      | false =>
          obtain ⟨hd, hE⟩ := hskip s t e h hc hk
          rw [List.filter_cons_of_neg (by simp [hk]), m.runFrom_cons_done es hd]
          exact ih hE (hrest hd)
      | true =>
          obtain ⟨hstop, hE⟩ := hkeep s t e h hc hk
          rw [List.filter_cons_of_pos hk]
          cases hd : (m.step s e).stop with
          | none =>
              rw [m.runFrom_cons_done es hd, m.runFrom_cons_done _ (hstop ▸ hd)]
              exact ih hE (hrest hd)
          | some why =>
              rw [m.runFrom_cons_halt es hd, m.runFrom_cons_halt _ (hstop ▸ hd)]
              exact .none

/-- Two runs with the same visible events look the same to an observer who cannot tell states apart
that `E` relates. -/
theorem runFrom_rel_of_filter_eq {E : σ → σ → Prop} (hsymm : ∀ s t, E s t → E t s)
    (htrans : ∀ s t u, E s t → E t u → E s u) {C : σ → ε → Prop} {keep : ε → Bool}
    (hskip : ∀ s t e, E s t → C s e → keep e = false →
      (m.step s e).stop = none ∧ E (m.step s e).state t)
    (hkeep : ∀ s t e, E s t → C s e → keep e = true →
      (m.step s e).stop = (m.step t e).stop ∧ E (m.step s e).state (m.step t e).state)
    {s t : σ} {es fs : List ε} (hst : E s t) (hes : m.EachStep s es C) (hfs : m.EachStep t fs C)
    (heq : es.filter keep = fs.filter keep) :
    Option.Rel E (m.runFrom s es) (m.runFrom t fs) := by
  have h₁ := m.runFrom_filter hskip hkeep hst hes
  have h₂ := m.runFrom_filter hskip hkeep (htrans t s t (hsymm s t hst) hst) hfs
  rw [heq] at h₁
  -- both runs look like the run from `t` through the visible events alone
  exact rel_of_rel_right hsymm htrans h₁ h₂

/-- Two runs whose events match one by one stay related. -/
theorem runFrom_lockstep {E : σ → σ → Prop} {M : ε → ε → Prop} {C : σ → ε → Prop}
    (hstep : ∀ s t e f, E s t → M e f → C s e → C t f →
      (m.step s e).stop = (m.step t f).stop ∧ E (m.step s e).state (m.step t f).state)
    {s t : σ} {es fs : List ε} (h : E s t) (hM : List.Forall₂ M es fs) (hes : m.EachStep s es C)
    (hfs : m.EachStep t fs C) : Option.Rel E (m.runFrom s es) (m.runFrom t fs) := by
  induction hM generalizing s t with
  | nil => exact .some h
  | @cons e f es fs hef _ ih =>
      obtain ⟨he, hes⟩ := m.eachStep_cons.mp hes
      obtain ⟨hf, hfs⟩ := m.eachStep_cons.mp hfs
      obtain ⟨hstop, hE⟩ := hstep s t e f h hef he hf
      cases hd : (m.step s e).stop with
      | none =>
          rw [m.runFrom_cons_done es hd, m.runFrom_cons_done fs (hstop ▸ hd)]
          exact ih hE (hes hd) (hfs (hstop ▸ hd))
      | some why =>
          rw [m.runFrom_cons_halt es hd, m.runFrom_cons_halt fs (hstop ▸ hd)]
          exact .none

end HitchOpen.EventMachine.Machine
