import HitchOpen.Library.EventMachine

/-!
# Two processes and a topic

A publisher and a subscriber run side by side; what the publisher sends waits in a queue until it is
delivered or lost.  The steps of the two and the deliveries interleave in any order.  A process that has
stopped takes no more steps.

The subscriber cannot tell the system from a list of events: `subscriber_eq` says that its state is the
one to which its own machine runs through the events it has handled, so that what is known of its runs
is known of it here.  In the other direction `heard_sent` traces what it has received back to a state
of the publisher.
-/

namespace HitchOpen.EventMachine

/-- A topic with messages `μ` between two machines. -/
structure Link (σ ε ω φ τ δ ω' ψ μ κ η : Type*) where
  publisher : Machine σ ε ω φ
  subscriber : Machine τ δ ω' ψ
  /-- The message that an output of the publisher puts on the topic. -/
  sent : ω → Option μ
  /-- The event that a delivery is to the subscriber. -/
  receive : κ → μ → δ
  /-- The events that reach the subscriber by other ways. -/
  own : η → δ

structure LinkState (σ τ μ : Type*) where
  /-- The state of the publisher, until it stops. -/
  publisher : Option σ
  inFlight : List μ
  /-- The state of the subscriber, until it stops. -/
  subscriber : Option τ

inductive LinkEvent (ε κ η : Type*)
  | publisher (e : ε)
  | subscriber (e : η)
  | deliver (k : κ)
  | lose

namespace Link

variable {σ ε ω φ τ δ ω' ψ μ κ η : Type*} (l : Link σ ε ω φ τ δ ω' ψ μ κ η)

/-- Both processes at their start and nothing under way. -/
def start : LinkState σ τ μ := ⟨some l.publisher.init, [], some l.subscriber.init⟩

/-- What a step of the publisher puts on the topic. -/
def published (e : ε) : Option σ → List μ
  | none => []
  | some s => (l.publisher.step s e).outputs.filterMap l.sent

/-- What the subscriber gets to handle in a step of the system. -/
def handled (s : LinkState σ τ μ) : LinkEvent ε κ η → List δ
  | .publisher _ => []
  | .subscriber e => [l.own e]
  | .deliver k => (s.inFlight.head?.map (l.receive k)).toList
  | .lose => []

def step (s : LinkState σ τ μ) (e : LinkEvent ε κ η) : LinkState σ τ μ where
  publisher :=
    match e with
    | .publisher e => s.publisher.bind fun p => l.publisher.runFrom p [e]
    | _ => s.publisher
  inFlight :=
    match e with
    | .publisher e => s.inFlight ++ l.published e s.publisher
    | .subscriber _ => s.inFlight
    | .deliver _ => s.inFlight.tail
    | .lose => s.inFlight.tail
  subscriber := s.subscriber.bind fun q => l.subscriber.runFrom q (l.handled s e)

/-- The state after the events `es`. -/
def run (s : LinkState σ τ μ) (es : List (LinkEvent ε κ η)) : LinkState σ τ μ := es.foldl l.step s

/-- What the subscriber has handled in the course of the events `es`. -/
def heard : LinkState σ τ μ → List (LinkEvent ε κ η) → List δ
  | _, [] => []
  | s, e :: es => l.handled s e ++ heard (l.step s e) es

/-- **Projection.**  The subscriber is where its own machine gets through what it has handled. -/
theorem subscriber_eq (s : LinkState σ τ μ) (es : List (LinkEvent ε κ η)) :
    (l.run s es).subscriber =
      s.subscriber.bind fun q => l.subscriber.runFrom q (l.heard s es) := by
  induction es generalizing s with
  | nil =>
      show s.subscriber = s.subscriber.bind some
      exact (Option.bind_fun_some _).symm
  | cons e es ih =>
      show (l.run (l.step s e) es).subscriber = _
      rw [ih]
      show (s.subscriber.bind fun q => l.subscriber.runFrom q (l.handled s e)).bind _ = _
      rw [Option.bind_assoc]
      congr 1
      funext q
      exact (l.subscriber.runFrom_append q (l.handled s e) (l.heard (l.step s e) es)).symm

/-- The publisher puts `m` on the topic in a state that it can reach. -/
def Sent (m : μ) : Prop :=
  ∃ pre p e, l.publisher.runFrom l.publisher.init pre = some p ∧
    m ∈ (l.publisher.step p e).outputs.filterMap l.sent

/-- The publisher is in a state that it can reach, and what is under way has been sent. -/
structure Traceable (s : LinkState σ τ μ) : Prop where
  publisher : ∀ p ∈ s.publisher, ∃ pre, l.publisher.runFrom l.publisher.init pre = some p
  inFlight : ∀ m ∈ s.inFlight, l.Sent m

theorem start_traceable : l.Traceable l.start where
  publisher _ hp := ⟨[], hp⟩
  inFlight _ hm := absurd hm List.not_mem_nil

theorem Traceable.step {l : Link σ ε ω φ τ δ ω' ψ μ κ η} {s : LinkState σ τ μ} (h : l.Traceable s)
    (e : LinkEvent ε κ η) : l.Traceable (l.step s e) := by
  cases e with
  | subscriber e => exact ⟨h.publisher, h.inFlight⟩
  | deliver k => exact ⟨h.publisher, fun m hm => h.inFlight m (List.mem_of_mem_tail hm)⟩
  | lose => exact ⟨h.publisher, fun m hm => h.inFlight m (List.mem_of_mem_tail hm)⟩
  | publisher e =>
      refine ⟨?_, ?_⟩
      · intro p' hp'
        obtain ⟨p, hp, hstep⟩ := Option.bind_eq_some_iff.mp hp'
        obtain ⟨pre, hpre⟩ := h.publisher p hp
        refine ⟨pre ++ [e], ?_⟩
        rw [l.publisher.runFrom_append_of_eq [e] hpre]
        exact hstep
      · intro m hm
        rcases List.mem_append.mp hm with hold | hnew
        · exact h.inFlight m hold
        · cases hp : s.publisher with
          | none =>
              rw [hp] at hnew
              exact absurd hnew List.not_mem_nil
          | some p =>
              rw [hp] at hnew
              obtain ⟨pre, hpre⟩ := h.publisher p hp
              exact ⟨pre, p, e, hpre, hnew⟩

/-- **Origin.**  What the subscriber has handled came to it by other ways or was sent by the
publisher. -/
theorem heard_sent {s : LinkState σ τ μ} (h : l.Traceable s) (es : List (LinkEvent ε κ η)) :
    ∀ d ∈ l.heard s es, (∃ e, d = l.own e) ∨ ∃ k m, d = l.receive k m ∧ l.Sent m := by
  induction es generalizing s with
  | nil => exact fun d hd => absurd hd List.not_mem_nil
  | cons e es ih =>
      intro d hd
      rcases List.mem_append.mp hd with hnow | hlater
      · cases e with
        | publisher e => exact absurd hnow List.not_mem_nil
        | lose => exact absurd hnow List.not_mem_nil
        | subscriber e => exact .inl ⟨e, List.mem_singleton.mp hnow⟩
        | deliver k =>
            obtain ⟨m, hm, rfl⟩ := Option.map_eq_some_iff.mp (Option.mem_toList.mp hnow)
            exact .inr ⟨k, m, rfl, h.inFlight m (List.mem_of_mem_head? hm)⟩
      · exact ih (h.step e) d hlater

end Link

end HitchOpen.EventMachine
