import Mathlib.Data.List.Basic
import Mathlib.Data.List.Induction

/-!
# Deterministic event machines and the invariants of their runs

A machine answers one event at a time with a `Reply`: the next state, what it sent out, and the
reason it stopped, if handling the event ended the process.  A run is a list of events; it reaches a
state when none of its events stopped the machine.

Three quantifiers speak about whole runs:

* `EachState s₀ es P` — `P` holds in every state that the run `es` passes through from `s₀`;
* `EachStep s₀ es C` — `C` holds of every state and event met when the run takes a step;
* `EachStepAfter s₀ es C` — the same for a condition that also looks at what has been sent out so far.

The rules below reduce them to facts about one step.  `runFrom_induct` is the invariant rule,
`runFrom_induct_history` its form for what a state remembers of its past, `eachState_of_eachStep` the
rule for an invariant that only survives steps meeting a condition, and `eachState_iff_eachStep` says
when that condition is exact: a step from a good state leads to a good state if and only if it meets
the condition.
-/

namespace HitchOpen.EventMachine

/-- What handling one event leaves behind. -/
@[ext] structure Reply (σ ω φ : Type*) where
  state : σ
  outputs : List ω
  stop : Option φ
  deriving DecidableEq

/-- The handler returned normally. -/
def Reply.done {σ ω φ : Type*} (s : σ) (out : List ω) : Reply σ ω φ := ⟨s, out, none⟩

/-- The handler ended the process, after sending `out`, with the state as it was at that point. -/
def Reply.halt {σ ω φ : Type*} (s : σ) (out : List ω) (why : φ) : Reply σ ω φ := ⟨s, out, some why⟩

section Reply

variable {σ ω φ : Type*} (s : σ) (out : List ω) (why : φ)

@[simp] theorem Reply.done_state : (Reply.done s out : Reply σ ω φ).state = s := rfl
@[simp] theorem Reply.done_outputs : (Reply.done s out : Reply σ ω φ).outputs = out := rfl
@[simp] theorem Reply.done_stop : (Reply.done s out : Reply σ ω φ).stop = none := rfl
@[simp] theorem Reply.halt_state : (Reply.halt s out why).state = s := rfl
@[simp] theorem Reply.halt_outputs : (Reply.halt s out why).outputs = out := rfl
@[simp] theorem Reply.halt_stop : (Reply.halt s out why).stop = some why := rfl

end Reply

/-- A component: where it starts and how it answers an event. -/
structure Machine (σ ε ω φ : Type*) where
  init : σ
  step : σ → ε → Reply σ ω φ

namespace Machine

variable {σ ε ω φ : Type*} (m : Machine σ ε ω φ)

/-- The state after handling all of `es`, when none of them stopped the machine. -/
def runFrom : σ → List ε → Option σ
  | s, [] => some s
  | s, e :: es =>
      match (m.step s e).stop with
      | none => runFrom (m.step s e).state es
      | some _ => none

/-- Everything a process does: it handles events until one of them stops it. -/
def spin : σ → List ε → Reply σ ω φ
  | s, [] => .done s []
  | s, e :: es =>
      match (m.step s e).stop with
      | none =>
          let rest := spin (m.step s e).state es
          ⟨rest.state, (m.step s e).outputs ++ rest.outputs, rest.stop⟩
      | some why => .halt (m.step s e).state (m.step s e).outputs why

@[simp] theorem runFrom_nil (s : σ) : m.runFrom s [] = some s := rfl

theorem runFrom_cons_done {s : σ} {e : ε} (es : List ε) (h : (m.step s e).stop = none) :
    m.runFrom s (e :: es) = m.runFrom (m.step s e).state es := by
  rw [runFrom, h]

theorem runFrom_cons_halt {s : σ} {e : ε} {why : φ} (es : List ε)
    (h : (m.step s e).stop = some why) : m.runFrom s (e :: es) = none := by
  rw [runFrom, h]

/-- A run through `e :: es` takes the step `e` and then runs through `es`. -/
theorem runFrom_cons_iff {s t : σ} {e : ε} {es : List ε} :
    m.runFrom s (e :: es) = some t ↔
      (m.step s e).stop = none ∧ m.runFrom (m.step s e).state es = some t := by
  cases h : (m.step s e).stop with
  | none => simp [m.runFrom_cons_done es h]
  | some why => simp [m.runFrom_cons_halt es h]

theorem spin_cons_done {s : σ} {e : ε} (es : List ε) (h : (m.step s e).stop = none) :
    m.spin s (e :: es) =
      ⟨(m.spin (m.step s e).state es).state,
        (m.step s e).outputs ++ (m.spin (m.step s e).state es).outputs,
        (m.spin (m.step s e).state es).stop⟩ := by
  rw [spin, h]

theorem spin_cons_halt {s : σ} {e : ε} {why : φ} (es : List ε) (h : (m.step s e).stop = some why) :
    m.spin s (e :: es) = .halt (m.step s e).state (m.step s e).outputs why := by
  rw [spin, h]

theorem runFrom_append (s : σ) (es fs : List ε) :
    m.runFrom s (es ++ fs) = (m.runFrom s es).bind fun t => m.runFrom t fs := by
  induction es generalizing s with
  | nil => rfl
  | cons e es ih =>
      cases h : (m.step s e).stop with
      | none => rw [List.cons_append, m.runFrom_cons_done _ h, m.runFrom_cons_done _ h, ih]
      | some why =>
          rw [List.cons_append, m.runFrom_cons_halt _ h, m.runFrom_cons_halt _ h]
          rfl

theorem runFrom_append_of_eq {s t : σ} {es : List ε} (fs : List ε)
    (h : m.runFrom s es = some t) : m.runFrom s (es ++ fs) = m.runFrom t fs := by
  rw [runFrom_append, h]
  rfl

/-- A machine that no event stops reaches a state along every run. -/
theorem runFrom_of_never_stops (h : ∀ s e, (m.step s e).stop = none) (s : σ) (es : List ε) :
    ∃ t, m.runFrom s es = some t := by
  induction es generalizing s with
  | nil => exact ⟨s, rfl⟩
  | cons e es ih =>
      rw [m.runFrom_cons_done es (h s e)]
      exact ih _

/-- **Invariant rule.**  A property of the first state that no step breaks holds of every state
reached. -/
theorem runFrom_induct {P : σ → Prop} {s t : σ} {es : List ε} (h0 : P s)
    (hstep : ∀ s e, P s → (m.step s e).stop = none → P (m.step s e).state)
    (h : m.runFrom s es = some t) : P t := by
  induction es generalizing s with
  | nil => exact Option.some.inj h ▸ h0
  | cons e es ih =>
      obtain ⟨hd, hrun⟩ := m.runFrom_cons_iff.mp h
      exact ih (hstep s e h0 hd) hrun

/-- **Invariant rule with a history.**  The same for a relation between the events handled so far and
the state they have led to. -/
theorem runFrom_induct_history {H : List ε → σ → Prop} {s₀ t : σ} {es : List ε} (h0 : H [] s₀)
    (hstep : ∀ es s e, H es s → (m.step s e).stop = none → H (es ++ [e]) (m.step s e).state)
    (h : m.runFrom s₀ es = some t) : H es t := by
  induction es using List.reverseRecOn generalizing t with
  | nil => exact Option.some.inj h ▸ h0
  | append_singleton es e ih =>
      rw [runFrom_append] at h
      obtain ⟨s, hs, hlast⟩ := Option.bind_eq_some_iff.mp h
      obtain ⟨hd, hend⟩ := m.runFrom_cons_iff.mp hlast
      exact Option.some.inj hend ▸ hstep es s e (ih hs) hd

/-- A run that reaches a state goes on from there. -/
theorem spin_append_of_eq {s t : σ} {es : List ε} (fs : List ε) (h : m.runFrom s es = some t) :
    (m.spin s (es ++ fs)).outputs = (m.spin s es).outputs ++ (m.spin t fs).outputs := by
  induction es generalizing s with
  | nil =>
      obtain rfl : s = t := Option.some.inj h
      rfl
  | cons e es ih =>
      obtain ⟨hd, hrun⟩ := m.runFrom_cons_iff.mp h
      rw [List.cons_append, m.spin_cons_done _ hd, m.spin_cons_done _ hd, ih hrun, List.append_assoc]

/-- A run that has stopped handles no further events. -/
theorem spin_append_of_none {s : σ} {es : List ε} (fs : List ε) (h : m.runFrom s es = none) :
    m.spin s (es ++ fs) = m.spin s es := by
  induction es generalizing s with
  | nil => cases h
  | cons e es ih =>
      cases hd : (m.step s e).stop with
      | none =>
          rw [m.runFrom_cons_done es hd] at h
          rw [List.cons_append, m.spin_cons_done _ hd, m.spin_cons_done _ hd, ih h]
      | some why => rw [List.cons_append, m.spin_cons_halt _ hd, m.spin_cons_halt _ hd]

theorem spin_singleton_outputs (s : σ) (e : ε) :
    (m.spin s [e]).outputs = (m.step s e).outputs := by
  cases hd : (m.step s e).stop with
  | none =>
      rw [m.spin_cons_done _ hd]
      exact List.append_nil _
  | some why =>
      rw [m.spin_cons_halt _ hd]
      rfl

/-! ### Properties of every state and of every step of a run -/

/-- `P` holds in every state that the run `es` from `s₀` passes through. -/
def EachState (s₀ : σ) (es : List ε) (P : σ → Prop) : Prop :=
  ∀ pre s, pre <+: es → m.runFrom s₀ pre = some s → P s

/-- `C` holds of every state and event at which the run `es` from `s₀` takes a step. -/
def EachStep (s₀ : σ) (es : List ε) (C : σ → ε → Prop) : Prop :=
  ∀ pre e s, pre ++ [e] <+: es → m.runFrom s₀ pre = some s → C s e

/-- `C` holds at every step of the run `es` from `s₀`, of what has been sent out before it, the state
and the event. -/
def EachStepAfter (s₀ : σ) (es : List ε) (C : List ω → σ → ε → Prop) : Prop :=
  ∀ pre e s, pre ++ [e] <+: es → m.runFrom s₀ pre = some s → C (m.spin s₀ pre).outputs s e

theorem eachState_nil {s₀ : σ} {P : σ → Prop} : m.EachState s₀ [] P ↔ P s₀ := by
  refine ⟨?_, ?_⟩
  · intro h
    exact h [] s₀ (List.prefix_refl []) rfl
  · intro h pre s hpre hrun
    rw [List.prefix_nil.mp hpre] at hrun
    exact Option.some.inj hrun ▸ h

theorem eachStep_nil {s₀ : σ} {C : σ → ε → Prop} : m.EachStep s₀ [] C := by
  intro pre e s hpre
  exact absurd (List.prefix_nil.mp hpre) (by simp)

theorem eachState_cons {s₀ : σ} {e : ε} {es : List ε} {P : σ → Prop} :
    m.EachState s₀ (e :: es) P ↔
      P s₀ ∧ ((m.step s₀ e).stop = none → m.EachState (m.step s₀ e).state es P) := by
  refine ⟨?_, ?_⟩
  · intro h
    refine ⟨h [] s₀ (List.nil_prefix) rfl, fun hd pre s hpre hrun => ?_⟩
    exact h (e :: pre) s ((List.prefix_cons_inj e).mpr hpre) (m.runFrom_cons_iff.mpr ⟨hd, hrun⟩)
  · rintro ⟨h0, hrest⟩ pre s hpre hrun
    cases pre with
    | nil => exact Option.some.inj hrun ▸ h0
    | cons e' pre =>
        obtain ⟨rfl, htail⟩ := List.cons_prefix_cons.mp hpre
        obtain ⟨hd, hrun⟩ := m.runFrom_cons_iff.mp hrun
        exact hrest hd pre s htail hrun

theorem eachStep_cons {s₀ : σ} {e : ε} {es : List ε} {C : σ → ε → Prop} :
    m.EachStep s₀ (e :: es) C ↔
      C s₀ e ∧ ((m.step s₀ e).stop = none → m.EachStep (m.step s₀ e).state es C) := by
  refine ⟨?_, ?_⟩
  · intro h
    refine ⟨h [] e s₀ (by simp) rfl, fun hd pre e' s hpre hrun => ?_⟩
    exact h (e :: pre) e' s ((List.prefix_cons_inj e).mpr hpre) (m.runFrom_cons_iff.mpr ⟨hd, hrun⟩)
  · rintro ⟨h0, hrest⟩ pre e' s hpre hrun
    cases pre with
    | nil =>
        obtain ⟨rfl, -⟩ := List.cons_prefix_cons.mp hpre
        exact Option.some.inj hrun ▸ h0
    | cons e'' pre =>
        obtain ⟨rfl, htail⟩ := List.cons_prefix_cons.mp hpre
        obtain ⟨hd, hrun⟩ := m.runFrom_cons_iff.mp hrun
        exact hrest hd pre e' s htail hrun

theorem eachStepAfter_nil {s₀ : σ} {C : List ω → σ → ε → Prop} : m.EachStepAfter s₀ [] C := by
  intro pre e s hpre
  exact absurd (List.prefix_nil.mp hpre) (by simp)

theorem eachStepAfter_cons {s₀ : σ} {e : ε} {es : List ε} {C : List ω → σ → ε → Prop} :
    m.EachStepAfter s₀ (e :: es) C ↔
      C [] s₀ e ∧ ((m.step s₀ e).stop = none →
        m.EachStepAfter (m.step s₀ e).state es fun out => C ((m.step s₀ e).outputs ++ out)) := by
  refine ⟨?_, ?_⟩
  · intro h
    refine ⟨h [] e s₀ (by simp) rfl, fun hd pre e' s hpre hrun => ?_⟩
    have hC := h (e :: pre) e' s ((List.prefix_cons_inj e).mpr hpre)
      (m.runFrom_cons_iff.mpr ⟨hd, hrun⟩)
    rw [m.spin_cons_done pre hd] at hC
    exact hC
  · intro h pre e' s hpre hrun
    cases pre with
    | nil =>
        obtain ⟨rfl, -⟩ := List.cons_prefix_cons.mp hpre
        exact Option.some.inj hrun ▸ h.1
    | cons e'' pre =>
        obtain ⟨rfl, htail⟩ := List.cons_prefix_cons.mp hpre
        obtain ⟨hd, hrun⟩ := m.runFrom_cons_iff.mp hrun
        rw [m.spin_cons_done pre hd]
        exact h.2 hd pre e' s htail hrun

instance decidableEachState (P : σ → Prop) [DecidablePred P] :
    ∀ s es, Decidable (m.EachState s es P)
  | _, [] => decidable_of_iff _ m.eachState_nil.symm
  | s, e :: es =>
      have := decidableEachState P (m.step s e).state es
      decidable_of_iff _ m.eachState_cons.symm

instance decidableEachStep (C : σ → ε → Prop) [∀ s e, Decidable (C s e)] :
    ∀ s es, Decidable (m.EachStep s es C)
  | _, [] => isTrue m.eachStep_nil
  | s, e :: es =>
      have := decidableEachStep C (m.step s e).state es
      decidable_of_iff _ m.eachStep_cons.symm

instance decidableEachStepAfter :
    ∀ s es (C : List ω → σ → ε → Prop) [∀ out s e, Decidable (C out s e)],
      Decidable (m.EachStepAfter s es C)
  | _, [], _, _ => isTrue m.eachStepAfter_nil
  | s, e :: es, C, _ =>
      have := decidableEachStepAfter (m.step s e).state es fun out => C ((m.step s e).outputs ++ out)
      decidable_of_iff _ m.eachStepAfter_cons.symm

/-- **Output rule.**  If every step that meets `C` keeps a property of what has been sent out, a run
that only takes such steps has it of all its outputs. -/
theorem spin_outputs_induct {I : σ → Prop} {Q : List ω → Prop} {C : List ω → σ → ε → Prop} {s₀ : σ}
    {es : List ε} (hI : I s₀)
    (hIstep : ∀ s e, I s → (m.step s e).stop = none → I (m.step s e).state) (hQ : Q [])
    (hstep : ∀ out s e, I s → Q out → C out s e → Q (out ++ (m.step s e).outputs))
    (hC : m.EachStepAfter s₀ es C) : Q (m.spin s₀ es).outputs := by
  induction es using List.reverseRecOn with
  | nil => exact hQ
  | append_singleton es e ih =>
      have hes : Q (m.spin s₀ es).outputs :=
        ih fun pre e' s hpre => hC pre e' s (hpre.trans (List.prefix_append es [e]))
      cases hrun : m.runFrom s₀ es with
      | none =>
          rw [m.spin_append_of_none [e] hrun]
          exact hes
      | some s =>
          rw [m.spin_append_of_eq [e] hrun, spin_singleton_outputs]
          exact hstep _ s e (m.runFrom_induct hI hIstep hrun) hes
            (hC es e s (List.prefix_refl _) hrun)

/-- A run that reaches a state has taken all its steps. -/
theorem eachStep_of_runFrom {s₀ t : σ} {es : List ε} (h : m.runFrom s₀ es = some t) :
    m.EachStep s₀ es fun s e => (m.step s e).stop = none := by
  induction es generalizing s₀ with
  | nil => exact m.eachStep_nil
  | cons e es ih =>
      obtain ⟨hd, hrun⟩ := m.runFrom_cons_iff.mp h
      exact m.eachStep_cons.mpr ⟨hd, fun _ => ih hrun⟩

/-- **Conditional invariant rule.**  If the steps that meet `C` keep `P`, a run that only takes such
steps stays in `P`.  The auxiliary invariant `I` may count on `P`. -/
theorem eachState_of_eachStep {I P : σ → Prop} {C : σ → ε → Prop} {s₀ : σ} {es : List ε}
    (hI : I s₀) (hIstep : ∀ s e, I s → P s → (m.step s e).stop = none → I (m.step s e).state)
    (hP : P s₀)
    (hstep : ∀ s e, I s → P s → C s e → (m.step s e).stop = none → P (m.step s e).state)
    (hC : m.EachStep s₀ es C) : m.EachState s₀ es P := by
  induction es generalizing s₀ with
  | nil => exact m.eachState_nil.mpr hP
  | cons e es ih =>
      obtain ⟨h0, hrest⟩ := m.eachStep_cons.mp hC
      refine m.eachState_cons.mpr ⟨hP, fun hd => ?_⟩
      exact ih (hIstep s₀ e hI hP hd) (hstep s₀ e hI hP h0 hd) (hrest hd)

/-- **Exact condition rule.**  If from a state in `P` a step leads back into `P` exactly when it
meets `C`, and a step that stops the machine meets `C`, then a run stays in `P` exactly when all its
steps meet `C`. -/
theorem eachState_iff_eachStep {I P : σ → Prop} {C : σ → ε → Prop} {s₀ : σ} {es : List ε}
    (hI : I s₀) (hIstep : ∀ s e, I s → P s → (m.step s e).stop = none → I (m.step s e).state)
    (hP : P s₀)
    (hstep : ∀ s e, I s → P s → (m.step s e).stop = none → (P (m.step s e).state ↔ C s e))
    (hhalt : ∀ s e, I s → P s → (m.step s e).stop ≠ none → C s e) :
    m.EachState s₀ es P ↔ m.EachStep s₀ es C := by
  refine ⟨?_, ?_⟩
  · intro h
    induction es generalizing s₀ with
    | nil => exact m.eachStep_nil
    | cons e es ih =>
        obtain ⟨-, hrest⟩ := m.eachState_cons.mp h
        refine m.eachStep_cons.mpr ⟨?_, fun hd => ?_⟩
        · by_cases hd : (m.step s₀ e).stop = none
          · exact (hstep s₀ e hI hP hd).mp (hrest hd [] _ List.nil_prefix rfl)
          · exact hhalt s₀ e hI hP hd
        · exact ih (hIstep s₀ e hI hP hd) (hrest hd [] _ List.nil_prefix rfl) (hrest hd)
  · exact m.eachState_of_eachStep hI hIstep hP fun s e hs hp hc hd => (hstep s e hs hp hd).mpr hc

/-- Conditions that agree in every reachable state hold of the same runs. -/
theorem eachStep_congr {I : σ → Prop} {C D : σ → ε → Prop} {s₀ : σ} {es : List ε}
    (hI : I s₀) (hIstep : ∀ s e, I s → (m.step s e).stop = none → I (m.step s e).state)
    (h : ∀ s e, I s → (C s e ↔ D s e)) : m.EachStep s₀ es C ↔ m.EachStep s₀ es D := by
  constructor <;> intro hC pre e s hpre hrun
  · exact (h s e (m.runFrom_induct hI hIstep hrun)).mp (hC pre e s hpre hrun)
  · exact (h s e (m.runFrom_induct hI hIstep hrun)).mpr (hC pre e s hpre hrun)

/-- A run is a shorter run and one more step. -/
theorem runFrom_concat_iff {s₀ t : σ} {es : List ε} {e : ε} :
    m.runFrom s₀ (es ++ [e]) = some t ↔
      ∃ s, m.runFrom s₀ es = some s ∧ (m.step s e).stop = none ∧ (m.step s e).state = t := by
  rw [runFrom_append, Option.bind_eq_some_iff]
  refine exists_congr fun s => and_congr_right fun _ => ?_
  rw [runFrom_cons_iff, runFrom_nil, Option.some_inj]

/-- A process that has stopped did so at a step of its run. -/
theorem exists_step_of_spin_stop {s₀ : σ} {es : List ε} {why : φ} (h : (m.spin s₀ es).stop = some why) :
    ∃ pre e s, pre ++ [e] <+: es ∧ m.runFrom s₀ pre = some s ∧ (m.step s e).stop = some why := by
  induction es generalizing s₀ with
  | nil => cases h
  | cons e es ih =>
      cases hd : (m.step s₀ e).stop with
      | none =>
          rw [m.spin_cons_done es hd] at h
          obtain ⟨pre, e', s, hpre, hrun, hstop⟩ := ih h
          exact ⟨e :: pre, e', s, (List.prefix_cons_inj e).mpr hpre,
            m.runFrom_cons_iff.mpr ⟨hd, hrun⟩, hstop⟩
      | some why' =>
          rw [m.spin_cons_halt es hd] at h
          exact ⟨[], e, s₀, (List.prefix_cons_inj e).mpr List.nil_prefix, rfl, hd.trans h⟩

/-! ### What a run brings together -/

/-- What `f` takes note of at each step of a run, one after the other. -/
def collect {κ : Type*} (f : σ → ε → List κ) : σ → List ε → List κ
  | _, [] => []
  | s, e :: es =>
      match (m.step s e).stop with
      | none => f s e ++ collect f (m.step s e).state es
      | some _ => f s e

theorem collect_cons_done {κ : Type*} (f : σ → ε → List κ) {s : σ} {e : ε} (es : List ε)
    (h : (m.step s e).stop = none) :
    m.collect f s (e :: es) = f s e ++ m.collect f (m.step s e).state es := by
  rw [collect, h]

theorem collect_concat {κ : Type*} (f : σ → ε → List κ) {s₀ s : σ} {es : List ε} (e : ε)
    (h : m.runFrom s₀ es = some s) : m.collect f s₀ (es ++ [e]) = m.collect f s₀ es ++ f s e := by
  induction es generalizing s₀ with
  | nil =>
      obtain rfl := Option.some.inj h
      rw [List.nil_append, collect, collect]
      cases (m.step s₀ e).stop with
      | none => exact List.append_nil _
      | some why => rfl
  | cons e' es ih =>
      obtain ⟨hd, hrun⟩ := m.runFrom_cons_iff.mp h
      rw [List.cons_append, m.collect_cons_done f _ hd, m.collect_cons_done f _ hd, ih hrun,
        List.append_assoc]

/-- The outputs of a run are what is taken note of when nothing else is. -/
theorem collect_outputs (s : σ) (es : List ε) :
    m.collect (fun s e => (m.step s e).outputs) s es = (m.spin s es).outputs := by
  induction es generalizing s with
  | nil => rfl
  | cons e es ih =>
      cases h : (m.step s e).stop with
      | none => rw [m.collect_cons_done _ es h, m.spin_cons_done es h, ih]
      | some why =>
          rw [m.spin_cons_halt es h, collect, h]
          rfl

/-- **Accounting rule.**  If every step keeps a relation between what has been taken note of and the
state, it holds of every state reached. -/
theorem runFrom_collect_induct {κ : Type*} {f : σ → ε → List κ} {R : List κ → σ → Prop} {s₀ t : σ}
    {es : List ε} (h0 : R [] s₀)
    (hstep : ∀ ks s e, R ks s → (m.step s e).stop = none → R (ks ++ f s e) (m.step s e).state)
    (h : m.runFrom s₀ es = some t) : R (m.collect f s₀ es) t := by
  have hfrom : ∀ ks s, R ks s → m.runFrom s es = some t → R (ks ++ m.collect f s es) t := by
    clear h0 h
    induction es with
    | nil =>
        intro ks s hR hrun
        rw [collect, List.append_nil]
        exact Option.some.inj hrun ▸ hR
    | cons e es ih =>
        intro ks s hR hrun
        obtain ⟨hd, hrun⟩ := m.runFrom_cons_iff.mp hrun
        rw [m.collect_cons_done f es hd, ← List.append_assoc]
        exact ih _ _ (hstep ks s e hR hd) hrun
  exact hfrom [] s₀ h0 h

end Machine

end HitchOpen.EventMachine
