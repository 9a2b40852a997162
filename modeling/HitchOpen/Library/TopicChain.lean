import HitchOpen.Library.Topic

/-!
# Chains of topics

A publisher, a topic and a subscriber are a machine again: it goes on whatever happens to the two, and
sends out what the subscriber sends out.  Put at the publishing end of another topic it makes a chain.

What comes out at the far end of a chain is traced back along it.  `mem_machine_outputs` says what the
subscriber has handled for it, `sentIn_of_deliver` which earlier step of the run put it on the topic, and
`publisher_eq` what the publisher had been through by then.
-/

namespace HitchOpen.EventMachine.Link

variable {σ ε ω φ τ δ ω' ψ μ κ η : Type*} (l : Link σ ε ω φ τ δ ω' ψ μ κ η)

/-! ### What the publisher goes through -/

/-- The events of the publisher. -/
def publisherEvents (es : List (LinkEvent ε κ η)) : List ε :=
  es.filterMap fun
    | .publisher e => some e
    | _ => none

/-- The publisher is where its own machine gets through these events, whatever the subscriber does. -/
theorem publisher_eq (s : LinkState σ τ μ) (es : List (LinkEvent ε κ η)) :
    (l.run s es).publisher = s.publisher.bind fun p => l.publisher.runFrom p (publisherEvents es) := by
  induction es generalizing s with
  | nil => exact (Option.bind_fun_some _).symm
  | cons e es ih =>
      show (l.run (l.step s e) es).publisher = _
      rw [ih]
      cases e with
      | publisher e =>
          show (s.publisher.bind fun p => l.publisher.runFrom p [e]).bind _ = _
          rw [Option.bind_assoc]
          congr 1
          funext p
          exact (l.publisher.runFrom_append p [e] (publisherEvents es)).symm
      | subscriber e => rfl
      | deliver k => rfl
      | lose => rfl

/-! ### Where a message comes from -/

/-- A step of the run `es` put `m` on the topic. -/
def SentIn (es : List (LinkEvent ε κ η)) (m : μ) : Prop :=
  ∃ pre e, pre ++ [.publisher e] <+: es ∧ m ∈ l.published e (l.run l.start pre).publisher

variable {l} {es : List (LinkEvent ε κ η)}

theorem SentIn.mono {fs : List (LinkEvent ε κ η)} {m : μ} (h : l.SentIn es m) (hes : es <+: fs) :
    l.SentIn fs m := by
  obtain ⟨pre, e, hpre, hm⟩ := h
  exact ⟨pre, e, hpre.trans hes, hm⟩

/-- The publisher sent it in the state that its own machine had reached. -/
theorem SentIn.exists_step {m : μ} (h : l.SentIn es m) :
    ∃ pre e p out, pre ++ [.publisher e] <+: es ∧
      l.publisher.runFrom l.publisher.init (publisherEvents pre) = some p ∧
      out ∈ (l.publisher.step p e).outputs ∧ l.sent out = some m := by
  obtain ⟨pre, e, hpre, hm⟩ := h
  cases hp : (l.run l.start pre).publisher with
  | none =>
      rw [hp] at hm
      exact absurd hm List.not_mem_nil
  | some p =>
      rw [hp] at hm
      obtain ⟨out, hout, hsent⟩ := List.mem_filterMap.mp hm
      rw [publisher_eq] at hp
      exact ⟨pre, e, p, out, hpre, hp, hout, hsent⟩

theorem sentIn_of_inFlight : ∀ m ∈ (l.run l.start es).inFlight, l.SentIn es m := by
  induction es using List.reverseRecOn with
  | nil => exact fun m hm => absurd hm List.not_mem_nil
  | append_singleton es e ih =>
      intro m hm
      have hlast : l.run l.start (es ++ [e]) = l.step (l.run l.start es) e := List.foldl_concat _ _ _ _
      have hold : m ∈ (l.run l.start es).inFlight → l.SentIn (es ++ [e]) m := fun h =>
        (ih m h).mono (List.prefix_append es [e])
      rw [hlast] at hm
      cases e with
      | publisher e =>
          rcases List.mem_append.mp hm with hm | hm
          · exact hold hm
          · exact ⟨es, e, List.prefix_refl _, hm⟩
      | subscriber e => exact hold hm
      | deliver k => exact hold (List.mem_of_mem_tail hm)
      | lose => exact hold (List.mem_of_mem_tail hm)

/-- A delivery brings what has been sent earlier. -/
theorem sentIn_of_deliver {k : κ} {d : δ} (h : d ∈ l.handled (l.run l.start es) (.deliver k)) :
    ∃ m, d = l.receive k m ∧ l.SentIn es m := by
  obtain ⟨m, hm, rfl⟩ := Option.map_eq_some_iff.mp (Option.mem_toList.mp h)
  exact ⟨m, rfl, sentIn_of_inFlight m (List.mem_of_mem_head? hm)⟩

theorem handled_cases (s : LinkState σ τ μ) (e : LinkEvent ε κ η) :
    l.handled s e = [] ∨ ∃ d, l.handled s e = [d] := by
  cases e with
  | publisher e => exact .inl rfl
  | lose => exact .inl rfl
  | subscriber e => exact .inr ⟨_, rfl⟩
  | deliver k =>
      rw [handled]
      cases s.inFlight.head? with
      | none => exact .inl rfl
      | some m => exact .inr ⟨_, rfl⟩

/-- What has been handled in a run has been handled at a step of it. -/
theorem exists_handled_of_heard {s : LinkState σ τ μ} {d : δ} (h : d ∈ l.heard s es) :
    ∃ pre e, pre ++ [e] <+: es ∧ d ∈ l.handled (l.run s pre) e := by
  induction es generalizing s with
  | nil => exact absurd h List.not_mem_nil
  | cons e es ih =>
      rcases List.mem_append.mp h with hnow | hlater
      · exact ⟨[], e, (List.prefix_cons_inj e).mpr List.nil_prefix, hnow⟩
      · obtain ⟨pre, e', hpre, hd⟩ := ih hlater
        exact ⟨e :: pre, e', (List.prefix_cons_inj e).mpr hpre, hd⟩

/-- **Origin, within the run.**  What the subscriber has heard came to it by other ways, or an earlier
step of the publisher in the same run sent it. -/
theorem heard_sentIn {d : δ} (h : d ∈ l.heard l.start es) :
    (∃ e, d = l.own e) ∨ ∃ k m, d = l.receive k m ∧ l.SentIn es m := by
  obtain ⟨pre, e, hpre, hd⟩ := exists_handled_of_heard h
  have hearlier : pre <+: es := (List.prefix_append pre [e]).trans hpre
  cases e with
  | publisher e => exact absurd hd List.not_mem_nil
  | lose => exact absurd hd List.not_mem_nil
  | subscriber e => exact .inl ⟨e, List.mem_singleton.mp hd⟩
  | deliver k =>
      obtain ⟨m, rfl, hm⟩ := sentIn_of_deliver hd
      exact .inr ⟨k, m, rfl, hm.mono hearlier⟩

/-- A subscriber that has stopped did so at a step of the run. -/
theorem exists_stop_of_none {s : LinkState σ τ μ} {q : τ} (hq : s.subscriber = some q)
    (h : (l.run s es).subscriber = none) :
    ∃ pre e q d, pre ++ [e] <+: es ∧ (l.run s pre).subscriber = some q ∧ d ∈ l.handled (l.run s pre) e ∧
      (l.subscriber.step q d).stop ≠ none := by
  induction es generalizing s q with
  | nil =>
      rw [show l.run s [] = s from rfl, hq] at h
      cases h
  | cons e es ih =>
      have hstep : (l.step s e).subscriber = l.subscriber.runFrom q (l.handled s e) := by
        show s.subscriber.bind _ = _
        rw [hq]
        rfl
      cases hq' : (l.step s e).subscriber with
      | some q' =>
          obtain ⟨pre, e', p, d, hpre, hrest⟩ := ih hq' h
          exact ⟨e :: pre, e', p, d, (List.prefix_cons_inj e).mpr hpre, hrest⟩
      | none =>
          rw [hstep] at hq'
          obtain hnone | ⟨d, hone⟩ := handled_cases (l := l) s e
          · rw [hnone] at hq'
            cases hq'
          · refine ⟨[], e, q, d, (List.prefix_cons_inj e).mpr List.nil_prefix, hq, ?_, ?_⟩
            · exact hone ▸ List.mem_singleton_self d
            · intro hgo
              rw [hone, l.subscriber.runFrom_cons_done [] hgo] at hq'
              cases hq'

/-! ### A link as a machine -/

variable (l)

/-- What the subscriber sends out in a step of the system. -/
def emitted (s : LinkState σ τ μ) (e : LinkEvent ε κ η) : List ω' :=
  s.subscriber.toList.flatMap fun q => (l.subscriber.spin q (l.handled s e)).outputs

/-- The two processes and the topic between them. -/
def machine : Machine (LinkState σ τ μ) (LinkEvent ε κ η) ω' Empty where
  init := l.start
  step s e := .done (l.step s e) (l.emitted s e)

variable {l}

/-- It never stops. -/
theorem machine_runFrom (s : LinkState σ τ μ) (es : List (LinkEvent ε κ η)) :
    l.machine.runFrom s es = some (l.run s es) := by
  induction es generalizing s with
  | nil => rfl
  | cons e es ih => exact (l.machine.runFrom_cons_done es rfl).trans (ih _)

/-- What comes out answers an event that the subscriber has handled in the state it was in. -/
theorem mem_machine_outputs {s : LinkState σ τ μ} {e : LinkEvent ε κ η} {out : ω'}
    (h : out ∈ (l.machine.step s e).outputs) :
    ∃ q d, s.subscriber = some q ∧ d ∈ l.handled s e ∧ out ∈ (l.subscriber.step q d).outputs := by
  obtain ⟨q, hq, hout⟩ := List.mem_flatMap.mp (show out ∈ l.emitted s e from h)
  obtain hnone | ⟨d, hone⟩ := handled_cases (l := l) s e
  · rw [hnone] at hout
    exact absurd hout List.not_mem_nil
  · rw [hone, l.subscriber.spin_singleton_outputs] at hout
    exact ⟨q, d, Option.mem_toList.mp hq, hone ▸ List.mem_singleton_self d, hout⟩

end HitchOpen.EventMachine.Link
