import HitchOpen.Library.DoubleBuffer
import HitchOpen.LgsvlBridge.Connection

/-!
# The messages to a client

The buffers `writing` and `pending` are the two buffers of a queue of messages, each written as a frame.
In every run, the frames of the messages that the client has accepted are, in their order, what is on the
wire, what is being written and what is pending, and there is never more than one write outstanding.

A message is dropped only when a gigabyte is pending.
-/

namespace HitchOpen.LgsvlBridge

open HitchOpen.Runtime EventMachine DoubleBuffer

/-- A topic and a message on it. -/
abbrev Message := Bytes × Bytes

namespace Connection

def frames (ms : List Message) : Bytes := ms.flatMap fun m => frame m.1 m.2

theorem frames_append (ms ns : List Message) : frames (ms ++ ns) = frames ms ++ frames ns :=
  List.flatMap_append

theorem frames_singleton (m : Message) : frames [m] = frame m.1 m.2 := List.append_nil _

theorem frames_eq_nil_iff {ms : List Message} : frames ms = [] ↔ ms = [] := by
  cases ms with
  | nil => exact ⟨fun _ => rfl, fun _ => rfl⟩
  | cons m ms => exact ⟨fun h => absurd h (by simp [frames, frame_ne_nil]), fun h => absurd h (by simp)⟩

/-- The client would discard a message. -/
def Full (s : Connection) : Prop := s.client.writing ≠ [] ∧ maxPendingSize ≤ s.client.pending.length

instance (s : Connection) : Decidable s.Full := inferInstanceAs (Decidable (_ ∧ _))

/-- The message that a step takes on. -/
def accepted (s : Connection) : ConnectionEvent → List Message
  | .publish topic msg => if s.Full then [] else [(topic, msg)]
  | _ => []

/-- The buffers and the wire hold the messages of a lane. -/
structure Carries (l : Lane Message) (s : Connection) : Prop where
  sent : s.socket.sent = frames l.done
  writing : s.client.writing = frames l.underway
  pending : s.client.pending = frames l.waiting
  inFlight : ∀ data, s.socket.inFlight = some data → data = s.client.writing ∧ l.underway ≠ []

theorem carries_start : Carries .empty start := ⟨rfl, rfl, rfl, fun _ h => nomatch h⟩

theorem Carries.writing_eq_nil {l : Lane Message} {s : Connection} (h : Carries l s) :
    s.client.writing = [] ↔ l.underway = [] := by
  rw [h.writing, frames_eq_nil_iff]

theorem Carries.inFlight_eq_none {l : Lane Message} {s : Connection} (h : Carries l s)
    (hidle : l.underway = []) : s.socket.inFlight = none := by
  cases hf : s.socket.inFlight with
  | none => rfl
  | some data => exact absurd hidle (h.inFlight data hf).2

/-- Reading does nothing about writing. -/
theorem step_read {s : Connection} (outcome : Outcome Bytes) :
    (step s (.read outcome)).state.client.writing = s.client.writing ∧
      (step s (.read outcome)).state.client.pending = s.client.pending ∧
      (step s (.read outcome)).state.socket.inFlight = s.socket.inFlight ∧
      (step s (.read outcome)).state.socket.sent = s.socket.sent ∧
      (step s (.read outcome)).stop ≠ some .overlap := by
  obtain ⟨-, hstep⟩ | ⟨data, -, rfl, hover, hstep⟩ | ⟨data, -, rfl, hover, hstep⟩ | ⟨-, hend, hstep⟩ :=
    read_cases s outcome <;> rw [hstep] <;> exact ⟨rfl, rfl, rfl, rfl, by simp⟩

/-- The end of a write completes what is under way. -/
theorem Carries.complete {l : Lane Message} {s : Connection} (h : Carries l s) {data : Bytes}
    (hf : s.socket.inFlight = some data) :
    Carries l.complete (Connection.step s (.written (.success ()))).state := by
  obtain ⟨hdata, -⟩ := h.inFlight data hf
  rw [step_written_success hf]
  refine ⟨?_, h.pending, rfl, ?_⟩
  · show s.socket.sent ++ data = frames (l.done ++ l.underway)
    rw [frames_append, h.sent, hdata, h.writing]
  · intro next hnext
    by_cases hp : s.client.pending = []
    · rw [Reply.done_state, if_pos hp] at hnext
      cases hnext
    · rw [Reply.done_state, if_neg hp] at hnext
      refine ⟨(Option.some.inj hnext).symm, fun hnil => hp ?_⟩
      rw [h.pending, frames_eq_nil_iff]
      exact hnil

theorem Carries.written {l : Lane Message} {s : Connection} (h : Carries l s) (outcome : Outcome Unit) :
    (Connection.step s (.written outcome)).stop = none ∧
      ∃ l', Carries l' (Connection.step s (.written outcome)).state ∧ l'.all = l.all := by
  obtain ⟨hf, hstep⟩ | ⟨data, hf, rfl, hstep⟩ | ⟨data, hf, hfail, hstep⟩ := written_cases s outcome
  · rw [hstep]
    exact ⟨rfl, l, h, rfl⟩
  · refine ⟨?_, l.complete, h.complete hf, l.all_complete⟩
    rw [hstep]
    rfl
  · rw [hstep]
    exact ⟨rfl, l, ⟨h.sent, h.writing, h.pending, fun _ hnone => nomatch hnone⟩, rfl⟩

theorem Carries.publish {l : Lane Message} {s : Connection} (h : Carries l s) (topic msg : Bytes) :
    (Connection.step s (.publish topic msg)).stop = none ∧
      ∃ l', Carries l' (Connection.step s (.publish topic msg)).state ∧
        l'.all = l.all ++ s.accepted (.publish topic msg) := by
  by_cases hw : s.client.writing = []
  · have hidle := h.writing_eq_nil.mp hw
    have hnot : ¬ s.Full := fun hfull => hfull.1 hw
    have hpending : s.client.pending = [] := by rw [h.pending, l.idle hidle]; rfl
    rw [step_publish_idle topic msg hw (h.inFlight_eq_none hidle), accepted, if_neg hnot]
    refine ⟨rfl, l.put (topic, msg), ?_, l.all_put _⟩
    rw [l.put_idle _ hidle]
    refine ⟨h.sent, (frames_singleton (topic, msg)).symm, hpending, fun data hdata => ?_⟩
    exact ⟨(Option.some.inj hdata).symm, List.cons_ne_nil _ _⟩
  · have hbusy : l.underway ≠ [] := fun hidle => hw (h.writing_eq_nil.mpr hidle)
    by_cases hp : s.client.pending.length < maxPendingSize
    · have hnot : ¬ s.Full := fun hfull => absurd hfull.2 (Nat.not_le.mpr hp)
      rw [step_publish_busy topic msg hw hp, accepted, if_neg hnot]
      refine ⟨rfl, l.put (topic, msg), ?_, l.all_put _⟩
      rw [l.put_busy _ hbusy]
      refine ⟨h.sent, h.writing, ?_, h.inFlight⟩
      show s.client.pending ++ frame topic msg = frames (l.waiting ++ [(topic, msg)])
      rw [frames_append, frames_singleton, h.pending]
    · have hfull : s.Full := ⟨hw, Nat.le_of_not_lt hp⟩
      rw [step_publish_full topic msg hw hfull.2, accepted, if_pos hfull]
      exact ⟨rfl, l, h, (List.append_nil _).symm⟩

/-- **One step of the queue.**  It never starts a second write, and the lane goes on with what it takes
on. -/
theorem Carries.step {l : Lane Message} {s : Connection} (h : Carries l s) (e : ConnectionEvent) :
    (Connection.step s e).stop ≠ some .overlap ∧
      ∃ l', Carries l' (Connection.step s e).state ∧ l'.all = l.all ++ s.accepted e := by
  cases e with
  | read outcome =>
      obtain ⟨hwriting, hpending, hinFlight, hsent, hstop⟩ := step_read (s := s) outcome
      refine ⟨hstop, l, ⟨?_, ?_, ?_, ?_⟩, (List.append_nil _).symm⟩
      · rw [hsent, h.sent]
      · rw [hwriting, h.writing]
      · rw [hpending, h.pending]
      · rw [hinFlight, hwriting]
        exact h.inFlight
  | written outcome =>
      obtain ⟨hstop, l', hl', hall⟩ := h.written outcome
      exact ⟨by rw [hstop]; simp, l', hl', hall.trans (List.append_nil _).symm⟩
  | publish topic msg =>
      obtain ⟨hstop, l', hl', hall⟩ := h.publish topic msg
      exact ⟨by rw [hstop]; simp, l', hl', hall⟩

/-- What stops a connection is a read past the end of its buffer. -/
theorem Carries.fault {l : Lane Message} {s : Connection} (h : Carries l s) {e : ConnectionEvent}
    {fault : Fault} (hstop : (Connection.step s e).stop = some fault) :
    fault = .undefined .outOfRange ∧ ∃ data, e = .read (.success data) ∧ Overruns (s.found data) := by
  cases e with
  | written outcome => exact absurd ((h.written outcome).1.symm.trans hstop) (by simp)
  | publish topic msg => exact absurd ((h.publish topic msg).1.symm.trans hstop) (by simp)
  | read outcome =>
      obtain ⟨-, hstep⟩ | ⟨data, -, rfl, hover, hstep⟩ | ⟨data, -, -, -, hstep⟩ | ⟨-, -, hstep⟩ :=
        read_cases s outcome <;> rw [hstep] at hstop
      · cases hstop
      · exact ⟨(Option.some.inj hstop).symm, data, rfl, hover⟩
      · cases hstop
      · cases hstop

/-- What a run has accepted. -/
def kept (es : List ConnectionEvent) : List Message := connection.collect accepted .start es

/-- In every state reached. -/
theorem carries_of_run {es : List ConnectionEvent} {t : Connection}
    (h : connection.runFrom .start es = some t) : ∃ l, Carries l t ∧ l.all = kept es := by
  refine connection.runFrom_collect_induct (R := fun ms s => ∃ l, Carries l s ∧ l.all = ms) ?_ ?_ h
  · exact ⟨.empty, carries_start, rfl⟩
  · rintro ms s e ⟨l, hl, rfl⟩ -
    exact (hl.step e).2

/-- **One write at a time.**  No run starts an operation of a kind that is outstanding. -/
theorem never_overlap (es : List ConnectionEvent) :
    (connection.spin .start es).stop ≠ some .overlap := by
  intro hstop
  obtain ⟨pre, e, s, -, hrun, hlast⟩ := connection.exists_step_of_spin_stop hstop
  obtain ⟨l, hl, -⟩ := carries_of_run hrun
  exact (hl.step e).1 hlast

/-- **Messages go out in order.**  What has been accepted is on the wire, then in the write, then
pending; nothing is lost in between, doubled or exchanged. -/
theorem accepted_in_order {es : List ConnectionEvent} {t : Connection}
    (h : connection.runFrom .start es = some t) :
    ∃ done underway waiting, kept es = done ++ underway ++ waiting ∧ t.socket.sent = frames done ∧
      t.client.writing = frames underway ∧ t.client.pending = frames waiting ∧
      ∀ data, t.socket.inFlight = some data → data = frames underway := by
  obtain ⟨l, hl, hall⟩ := carries_of_run h
  refine ⟨l.done, l.underway, l.waiting, hall.symm, hl.sent, hl.writing, hl.pending, ?_⟩
  intro data hdata
  rw [(hl.inFlight data hdata).1, hl.writing]

/-! ### Nothing gets stuck -/

/-- No write has failed and none is aborted. -/
def Writable (e : ConnectionEvent) : Prop := ∀ outcome, e = .written outcome → outcome = .success ()

/-- What is in `writing` is being written. -/
def Alive (s : Connection) : Prop := s.client.writing = [] ∨ s.socket.inFlight = some s.client.writing

theorem Alive.step {s : Connection} (h : s.Alive) {e : ConnectionEvent} (he : Writable e)
    (hstop : (Connection.step s e).stop = none) : (Connection.step s e).state.Alive := by
  cases e with
  | read outcome =>
      obtain ⟨hwriting, -, hinFlight, -⟩ := step_read (s := s) outcome
      rw [Alive, hwriting, hinFlight]
      exact h
  | written outcome =>
      obtain ⟨hf, hstep⟩ | ⟨data, hf, rfl, hstep⟩ | ⟨data, hf, hfail, hstep⟩ := written_cases s outcome
      · rw [hstep]
        exact h
      · rw [hstep]
        by_cases hp : s.client.pending = []
        · exact .inl hp
        · exact .inr (if_neg hp)
      · exact absurd (he outcome rfl) hfail
  | publish topic msg =>
      obtain ⟨hw, hf, hstep⟩ | ⟨hw, hp, hstep⟩ | ⟨hw, hp, hstep⟩ := publish_cases hstop
      · rw [hstep]
        exact .inr rfl
      · rw [hstep]
        exact h
      · rw [hstep]
        exact h

theorem alive_of_run {es : List ConnectionEvent} {t : Connection}
    (h : connection.runFrom .start es = some t) (hes : ∀ e ∈ es, Writable e) : t.Alive := by
  have hhistory := connection.runFrom_induct_history
    (H := fun es s => (∀ e ∈ es, Writable e) → Alive s) (fun _ => .inl rfl) ?_ h
  · exact hhistory hes
  · intro es s e ih hd hes
    exact (ih fun e' he' => hes e' (List.mem_append_left _ he')).step
      (hes e (List.mem_append_right _ List.mem_cons_self)) hd

/-- When nothing has failed, the lane goes on even if there was nothing to complete. -/
theorem Carries.complete_alive {l : Lane Message} {s : Connection} (h : Carries l s) (halive : s.Alive) :
    Carries l.complete (Connection.step s (.written (.success ()))).state := by
  cases hf : s.socket.inFlight with
  | some data => exact h.complete hf
  | none =>
      have hw : s.client.writing = [] := by
        obtain hw | hw := halive
        · exact hw
        · rw [hf] at hw
          cases hw
      have hunder := h.writing_eq_nil.mp hw
      have hwait := l.idle hunder
      rw [step_written_idle _ hf]
      refine ⟨?_, ?_, ?_, ?_⟩
      · show s.socket.sent = frames (l.done ++ l.underway)
        rw [h.sent, hunder, List.append_nil]
      · show s.client.writing = frames l.waiting
        rw [hw, hwait]
        rfl
      · rw [Reply.done_state, h.pending, hwait]
        rfl
      · rw [Reply.done_state, hf]
        exact fun _ hnone => nomatch hnone

/-- **Progress.**  While no write has failed, the end of two writes with nothing published in between
brings everything that has been accepted onto the wire. -/
theorem two_writes_flush {es : List ConnectionEvent} {t : Connection}
    (h : connection.runFrom .start es = some t) (hes : ∀ e ∈ es, Writable e) :
    ∃ u, connection.runFrom t [.written (.success ()), .written (.success ())] = some u ∧
      u.socket.sent = frames (kept es) ∧ u.client.writing = [] ∧ u.client.pending = [] := by
  obtain ⟨l, hl, hall⟩ := carries_of_run h
  have halive := alive_of_run h hes
  have hwritable : Writable (.written (.success ())) := by
    intro outcome houtcome
    exact (ConnectionEvent.written.inj houtcome).symm
  have hstop := (hl.written (.success ())).1
  have hl' := hl.complete_alive halive
  have hl'' := hl'.complete_alive (halive.step hwritable hstop)
  refine ⟨_, connection.runFrom_cons_iff.mpr ⟨hstop, connection.runFrom_cons_iff.mpr
    ⟨(hl'.written (.success ())).1, rfl⟩⟩, ?_, hl''.writing, hl''.pending⟩
  rw [← hall, ← l.done_complete_complete]
  exact hl''.sent

/-- Three messages, of which the first one is through. -/
def threeMessages : List ConnectionEvent :=
  [.publish [7] [1], .publish [7] [2], .written (.success ()), .publish [8] [3]]

theorem two_writes_flush_three :
    ∃ t u, connection.runFrom .start threeMessages = some t ∧
      connection.runFrom t [.written (.success ()), .written (.success ())] = some u ∧
      u.socket.sent = frames (kept threeMessages) ∧ u.client.writing = [] ∧ u.client.pending = [] := by
  have hrun : connection.runFrom .start threeMessages = some _ := rfl
  have hwritable : ∀ e ∈ threeMessages, Writable e := by
    intro e he outcome heq
    subst heq
    simpa [threeMessages] using he
  obtain ⟨u, hu⟩ := two_writes_flush hrun hwritable
  exact ⟨_, u, hrun, hu⟩

/-! ### The backlog -/

/-- The messages that the node publishes to the client. -/
def published (es : List ConnectionEvent) : List Message :=
  es.filterMap fun
    | .publish topic msg => some (topic, msg)
    | _ => none

theorem published_append (es fs : List ConnectionEvent) :
    published (es ++ fs) = published es ++ published fs := List.filterMap_append

/-- A step takes on what is published, unless the client is full. -/
theorem accepted_eq (s : Connection) (e : ConnectionEvent) :
    s.accepted e = if s.Full then [] else published [e] := by
  cases e with
  | read outcome => exact (ite_self _).symm
  | written outcome => exact (ite_self _).symm
  | publish topic msg => rfl

theorem frames_length_append (ms ns : List Message) :
    (frames (ms ++ ns)).length = (frames ms).length + (frames ns).length := by
  rw [frames_append, List.length_append]

/-- A full client has accepted more than the limit. -/
theorem Full.lt_length {s : Connection} {l : Lane Message} (hfull : s.Full) (h : Carries l s) :
    maxPendingSize < (frames l.all).length := by
  have hpos := List.length_pos_iff.mpr hfull.1
  have hpending := hfull.2
  rw [h.writing] at hpos
  rw [h.pending] at hpending
  rw [Lane.all, frames_length_append, frames_length_append]
  omega

/-- A message is discarded only when the client is full. -/
theorem full_of_discard {s : Connection} {e : ConnectionEvent} (hstop : (step s e).stop = none)
    (h : .discard ∈ (step s e).outputs) : s.Full ∧ ∃ topic msg, e = .publish topic msg := by
  have hgiveUp : ∀ p : Prop, ∀ _ : Decidable p, .discard ∉ (if p then [] else [Effect.stop, .remove]) := by
    intro p _ hmem
    split_ifs at hmem
    · cases hmem
    · simp at hmem
  cases e with
  | read outcome =>
      obtain ⟨-, hstep⟩ | ⟨data, -, -, -, hstep⟩ | ⟨data, -, -, -, hstep⟩ | ⟨-, -, hstep⟩ :=
        read_cases s outcome <;> rw [hstep] at h
      · cases h
      · cases h
      · rcases List.mem_append.mp h with h | h
        · obtain ⟨r, -, hr⟩ := List.mem_map.mp h
          cases hr
        · have hlast := List.mem_singleton.mp h
          split_ifs at hlast
      · exact absurd h (hgiveUp _ _)
  | written outcome =>
      obtain ⟨-, hstep⟩ | ⟨data, -, -, hstep⟩ | ⟨data, -, -, hstep⟩ := written_cases s outcome <;>
        rw [hstep] at h
      · cases h
      · rw [Reply.done_outputs] at h
        split_ifs at h
        · cases h
        · cases List.mem_singleton.mp h
      · exact absurd h (hgiveUp _ _)
  | publish topic msg =>
      obtain ⟨-, -, hstep⟩ | ⟨-, -, hstep⟩ | ⟨hw, hp, hstep⟩ := publish_cases hstop <;> rw [hstep] at h
      · cases List.mem_singleton.mp h
      · cases h
      · exact ⟨⟨hw, hp⟩, topic, msg, rfl⟩

theorem discard_of_full {s : Connection} (hfull : s.Full) (topic msg : Bytes) :
    .discard ∈ (step s (.publish topic msg)).outputs := by
  rw [step_publish_full topic msg hfull.1 hfull.2]
  exact List.mem_cons_self

/-- If no message has been discarded, all that has been published is accepted. -/
theorem kept_eq_published {es : List ConnectionEvent} {t : Connection}
    (h : connection.runFrom .start es = some t)
    (hdiscard : .discard ∉ (connection.spin .start es).outputs) : kept es = published es := by
  induction es using List.reverseRecOn generalizing t with
  | nil => rfl
  | append_singleton es e ih =>
      obtain ⟨s, hs, -, -⟩ := connection.runFrom_concat_iff.mp h
      rw [connection.spin_append_of_eq [e] hs] at hdiscard
      have hdiscard : .discard ∉ (connection.spin .start es).outputs ++ (connection.spin s [e]).outputs :=
        hdiscard
      rw [List.mem_append, not_or, connection.spin_singleton_outputs] at hdiscard
      rw [kept, connection.collect_concat accepted e hs, published_append]
      refine congrArg₂ (· ++ ·) (ih hs hdiscard.1) ?_
      rw [accepted_eq]
      by_cases hfull : s.Full
      · rw [if_pos hfull]
        cases e with
        | publish topic msg => exact absurd (discard_of_full hfull topic msg) hdiscard.2
        | read outcome => rfl
        | written outcome => rfl
      · exact if_neg hfull

/-- **A gigabyte is always taken on.**  A run that publishes no more than that discards nothing, however
slowly the peer reads. -/
theorem never_discards {es : List ConnectionEvent} {t : Connection}
    (h : connection.runFrom .start es = some t) (hes : (frames (published es)).length ≤ maxPendingSize) :
    .discard ∉ (connection.spin .start es).outputs := by
  induction es using List.reverseRecOn generalizing t with
  | nil => exact List.not_mem_nil
  | append_singleton es e ih =>
      obtain ⟨s, hs, hd, -⟩ := connection.runFrom_concat_iff.mp h
      rw [published_append, frames_length_append] at hes
      have hbefore := ih hs (by omega)
      rw [connection.spin_append_of_eq [e] hs]
      show .discard ∉ (connection.spin .start es).outputs ++ (connection.spin s [e]).outputs
      rw [List.mem_append, not_or, connection.spin_singleton_outputs]
      refine ⟨hbefore, fun hmem => ?_⟩
      obtain ⟨l, hl, hall⟩ := carries_of_run hs
      have hlt := (full_of_discard hd hmem).1.lt_length hl
      rw [hall, kept_eq_published hs hbefore] at hlt
      omega

theorem never_discards_three : .discard ∉ (connection.spin .start threeMessages).outputs :=
  have hrun : connection.runFrom .start threeMessages = some _ := rfl
  never_discards hrun (by decide)

/-- What is dropped is dropped whole: the accepted messages are published ones, in their order. -/
theorem kept_sublist_published (es : List ConnectionEvent) : (kept es).Sublist (published es) := by
  have hone : ∀ s e, (accepted s e).Sublist (published [e]) := by
    intro s e
    rw [accepted_eq]
    split_ifs
    · exact List.nil_sublist _
    · exact List.Sublist.refl _
  have hfrom : ∀ s, (connection.collect accepted s es).Sublist (published es) := by
    induction es with
    | nil => exact fun s => List.Sublist.refl _
    | cons e es ih =>
        intro s
        rw [← List.singleton_append, published_append, List.singleton_append, Machine.collect]
        cases (connection.step s e).stop with
        | none => exact (hone s e).append (ih _)
        | some why => exact (hone s e).trans (List.sublist_append_left _ _)
  exact hfrom .start

/-- **What the peer can get.**  At any time the bytes that have been written, those in the write and those
pending are the whole frames of published messages, in their order; if the log has not said that one was
discarded, of all of them. -/
theorem wire_accounted {es : List ConnectionEvent} {t : Connection}
    (h : connection.runFrom .start es = some t) :
    ∃ ms, ms.Sublist (published es) ∧
      t.socket.sent ++ t.client.writing ++ t.client.pending = frames ms ∧
      (.discard ∉ (connection.spin .start es).outputs → ms = published es) := by
  obtain ⟨done, underway, waiting, hkept, hsent, hwriting, hpending, -⟩ := accepted_in_order h
  refine ⟨kept es, kept_sublist_published es, ?_, kept_eq_published h⟩
  rw [hkept, frames_append, frames_append, hsent, hwriting, hpending]

theorem wire_accounted_three :
    ∃ t, connection.runFrom .start threeMessages = some t ∧ ∃ ms, ms.Sublist (published threeMessages) ∧
      t.socket.sent ++ t.client.writing ++ t.client.pending = frames ms ∧
      (.discard ∉ (connection.spin .start threeMessages).outputs → ms = published threeMessages) :=
  ⟨_, rfl, wire_accounted rfl⟩

/-- What a step can do to the pending messages. -/
theorem step_pending {s : Connection} {e : ConnectionEvent} (hstop : (step s e).stop = none) :
    (step s e).state.client.pending = s.client.pending ∨ (step s e).state.client.pending = [] ∨
      ∃ topic msg, e = .publish topic msg ∧ s.client.pending.length < maxPendingSize ∧
        (step s e).state.client.pending = s.client.pending ++ frame topic msg := by
  cases e with
  | read outcome => exact .inl (step_read outcome).2.1
  | written outcome =>
      obtain ⟨hf, hstep⟩ | ⟨data, hf, rfl, hstep⟩ | ⟨data, hf, hfail, hstep⟩ := written_cases s outcome
      · exact .inl (by rw [hstep]; rfl)
      · exact .inr (.inl (by rw [hstep]; rfl))
      · exact .inl (by rw [hstep]; rfl)
  | publish topic msg =>
      obtain ⟨hw, hf, hstep⟩ | ⟨hw, hp, hstep⟩ | ⟨hw, hp, hstep⟩ := publish_cases hstop
      · exact .inl (by rw [hstep]; rfl)
      · exact .inr (.inr ⟨topic, msg, rfl, hp, by rw [hstep]; rfl⟩)
      · exact .inl (by rw [hstep]; rfl)

/-- **The backlog is bounded.**  It exceeds the limit by less than the longest frame. -/
theorem pending_lt {es : List ConnectionEvent} {t : Connection} {longest : ℕ}
    (h : connection.runFrom .start es = some t)
    (hes : ∀ m ∈ published es, (frame m.1 m.2).length ≤ longest) :
    t.client.pending.length < maxPendingSize + longest := by
  have hpos : 0 < maxPendingSize := by decide
  have hhistory := connection.runFrom_induct_history
    (H := fun es s => (∀ m ∈ published es, (frame m.1 m.2).length ≤ longest) →
      s.client.pending.length < maxPendingSize + longest) ?_ ?_ h
  · exact hhistory hes
  · exact fun _ => Nat.add_pos_left hpos longest
  · intro es s e ih hd hes
    rw [published_append] at hes
    have hs := ih fun m hm => hes m (List.mem_append_left _ hm)
    obtain hsame | hnil | ⟨topic, msg, rfl, hlt, hmore⟩ := step_pending hd
    · exact hsame ▸ hs
    · show (step s e).state.client.pending.length < _
      rw [hnil]
      exact Nat.add_pos_left hpos longest
    · have hframe : (frame topic msg).length ≤ longest :=
        hes (topic, msg) (List.mem_append_right _ List.mem_cons_self)
      show (step s (.publish topic msg)).state.client.pending.length < _
      rw [hmore, List.length_append]
      omega

theorem pending_lt_three :
    ∃ t, connection.runFrom .start threeMessages = some t ∧
      t.client.pending.length < maxPendingSize + 11 := by
  have hrun : connection.runFrom .start threeMessages = some _ := rfl
  exact ⟨_, hrun, pending_lt hrun (by decide)⟩

end Connection

end HitchOpen.LgsvlBridge
