import HitchOpen.Library.EventMachine

/-!
# Machines that answer from their history

What a component is for is often easier to say of the events that it has seen than of the members that it
keeps: the last message of a kind, or what was known when something happened last.  `Remembers` relates
the two, and `spin_of_remembers` turns it into a statement about whole runs: the machine never stops, and
it sends out what the history asks for.
-/

namespace HitchOpen.History

open EventMachine

variable {σ ε ω φ α : Type*}

/-! ### Looking back -/

/-- What the last event of a kind carried. -/
def last (f : ε → Option α) (es : List ε) : Option α := (es.filterMap f).getLast?

@[simp] theorem last_nil (f : ε → Option α) : last f [] = none := rfl

theorem last_concat (f : ε → Option α) (es : List ε) (e : ε) :
    last f (es ++ [e]) = (f e).or (last f es) := by
  rw [last, last, List.filterMap_append]
  cases h : f e with
  | none => rw [List.filterMap_cons_none h, List.filterMap_nil, List.append_nil, Option.none_or]
  | some a => rw [List.filterMap_cons_some h, List.filterMap_nil, List.getLast?_concat, Option.some_or]

theorem last_eq_none_iff {f : ε → Option α} {es : List ε} : last f es = none ↔ ∀ e ∈ es, f e = none := by
  rw [last, List.getLast?_eq_none_iff, List.filterMap_eq_nil_iff]

/-- What was there when the last event with `p` came, nothing if there was none. -/
def beforeLast (p : ε → Bool) (es : List ε) : List ε :=
  ((es.reverse.dropWhile fun e => !p e).tail).reverse

@[simp] theorem beforeLast_nil (p : ε → Bool) : beforeLast p [] = [] := rfl

theorem beforeLast_concat (p : ε → Bool) (es : List ε) (e : ε) :
    beforeLast p (es ++ [e]) = if p e then es else beforeLast p es := by
  rw [beforeLast, List.reverse_append, List.reverse_singleton, List.singleton_append, List.dropWhile_cons]
  cases p e with
  | true => exact List.reverse_reverse es
  | false => rfl

theorem beforeLast_sublist (p : ε → Bool) (es : List ε) : (beforeLast p es).Sublist es := by
  have h := (List.tail_sublist _).trans (List.dropWhile_sublist (fun e => !p e) (l := es.reverse))
  have hreverse := h.reverse
  rw [List.reverse_reverse] at hreverse
  exact hreverse

/-- What has come after the last event with `p`, everything if there was none. -/
def sinceLast (p : ε → Bool) (es : List ε) : List ε := (es.reverse.takeWhile fun e => !p e).reverse

@[simp] theorem sinceLast_nil (p : ε → Bool) : sinceLast p [] = [] := rfl

theorem sinceLast_concat (p : ε → Bool) (es : List ε) (e : ε) :
    sinceLast p (es ++ [e]) = if p e then [] else sinceLast p es ++ [e] := by
  rw [sinceLast, List.reverse_append, List.reverse_singleton, List.singleton_append, List.takeWhile_cons]
  cases p e with
  | true => rfl
  | false => exact List.reverse_cons

/-! ### Answers -/

/-- What is answered to the events `es`, if `past` has been before them. -/
def answers (answer : List ε → ε → List ω) : List ε → List ε → List ω
  | _, [] => []
  | past, e :: es => answer past e ++ answers answer (past ++ [e]) es

theorem answers_concat (answer : List ε → ε → List ω) (past es : List ε) (e : ε) :
    answers answer past (es ++ [e]) = answers answer past es ++ answer (past ++ es) e := by
  induction es generalizing past with
  | nil => simp [answers]
  | cons e' es ih => rw [List.cons_append, answers, answers, ih, List.append_assoc, List.append_assoc,
      List.singleton_append]

/-- `R` says what a machine remembers, and by it every step is answered as the history asks for. -/
structure Remembers (m : Machine σ ε ω φ) (answer : List ε → ε → List ω) (R : List ε → σ → Prop) : Prop where
  goesOn : ∀ past s e, R past s → (m.step s e).stop = none
  replies : ∀ past s e, R past s → (m.step s e).outputs = answer past e
  keeps : ∀ past s e, R past s → R (past ++ [e]) (m.step s e).state

/-- **Refinement rule.**  From a state that remembers the past, a run is what the history asks for. -/
theorem spin_of_remembers {m : Machine σ ε ω φ} {answer : List ε → ε → List ω} {R : List ε → σ → Prop}
    (h : Remembers m answer R) {past : List ε} {s : σ} (hs : R past s) (es : List ε) :
    (m.spin s es).stop = none ∧ (m.spin s es).outputs = answers answer past es := by
  induction es generalizing past s with
  | nil => exact ⟨rfl, rfl⟩
  | cons e es ih =>
      obtain ⟨hstop, houtputs⟩ := ih (h.keeps past s e hs)
      rw [m.spin_cons_done es (h.goesOn past s e hs)]
      refine ⟨hstop, ?_⟩
      show (m.step s e).outputs ++ (m.spin (m.step s e).state es).outputs = _
      rw [h.replies past s e hs, houtputs]
      rfl

end HitchOpen.History
