import HitchOpen.LgsvlBridge.BridgeRuns

/-!
# What clients get from the bridge, and what is left of them

A message that the node takes from the subscription of a topic is published to each client that is
subscribed then.  With `connection_of_run` the order and the number of the frames on the wire follow from
what is known of a connection.

A client that breaks the protocol is stopped, but the node is not told to remove it.  If a write is
outstanding at that moment and ends as aborted, nothing will ever tell it: the client stays subscribed,
and what is published to it collects in `pending`.
-/

namespace HitchOpen.LgsvlBridge

open EventMachine HitchOpen.DoubleBuffer HitchOpen.Membership

namespace Bridge

variable {τ μ : Type} (ros : Ros τ μ)

/-! ### Deliveries -/

end Bridge

/-! ### Lost clients -/

namespace Connection

/-- The client reads no more and starts no other write; `flight` is the write that is outstanding. -/
structure Stuck (flight : Option Bytes) (s : Connection) : Prop where
  reading : s.socket.reading = false
  inFlight : s.socket.inFlight = flight
  writing : s.client.writing ≠ []

/-- Unless the write ends, nothing that happens to the client helps it. -/
theorem Stuck.step {flight : Option Bytes} {s : Connection} (h : s.Stuck flight) {e : ConnectionEvent}
    (he : flight = none ∨ ∀ outcome, e ≠ .written outcome) :
    (Connection.step s e).stop = none ∧ (Connection.step s e).state.Stuck flight ∧
      (Connection.step s e).state.socket.sent = s.socket.sent ∧
      ∀ effect ∈ (Connection.step s e).outputs, effect = .discard := by
  cases e with
  | read outcome =>
      rw [step_read_idle outcome h.reading]
      exact ⟨rfl, h, rfl, fun _ hnil => absurd hnil List.not_mem_nil⟩
  | written outcome =>
      have hnone : flight = none := he.resolve_right fun hall => hall outcome rfl
      rw [step_written_idle outcome (h.inFlight.trans hnone)]
      exact ⟨rfl, h, rfl, fun _ hnil => absurd hnil List.not_mem_nil⟩
  | publish topic msg =>
      by_cases hp : s.client.pending.length < maxPendingSize
      · rw [step_publish_busy topic msg h.writing hp]
        exact ⟨rfl, ⟨h.reading, h.inFlight, h.writing⟩, rfl, fun _ hnil => absurd hnil List.not_mem_nil⟩
      · rw [step_publish_full topic msg h.writing (Nat.le_of_not_lt hp)]
        exact ⟨rfl, h, rfl, fun _ hone => List.mem_singleton.mp hone⟩

/-- An aborted write tells nobody. -/
theorem Stuck.aborted {d : Bytes} {s : Connection} (h : s.Stuck (some d)) :
    ∃ s', Connection.step s (.written .aborted) = .done s' [] ∧ s'.Stuck none ∧
      s'.socket.sent = s.socket.sent := by
  refine ⟨_, step_written_failed h.inFlight (by simp), ?_, rfl⟩
  exact ⟨h.reading, rfl, h.writing⟩

/-- An unknown operation is met while a write is outstanding. -/
theorem stuck_of_unknown {s : Connection} {data d : Bytes} (hinFlight : s.socket.inFlight = some d)
    (hwriting : s.client.writing ≠ []) (hunknown : (s.found data).rejected = true) :
    (s.afterRead data).Stuck (some d) := by
  refine ⟨?_, hinFlight, hwriting⟩
  show (!(s.found data).rejected) = false
  rw [hunknown]
  rfl

/-- No read is outstanding, or no write although there is something to be written. -/
def GivenUp (s : Connection) : Prop :=
  s.socket.reading = false ∨ (s.socket.inFlight = none ∧ s.client.writing ≠ [])

theorem GivenUp.step {s : Connection} (h : s.GivenUp) {e : ConnectionEvent}
    (hstop : (Connection.step s e).stop = none) : (Connection.step s e).state.GivenUp := by
  cases e with
  | read outcome =>
      obtain ⟨-, hstep⟩ | ⟨data, -, -, -, hstep⟩ | ⟨data, hr, -, -, hstep⟩ | ⟨-, -, hstep⟩ :=
        read_cases s outcome <;> rw [hstep] at hstop ⊢
      · exact h
      · cases hstop
      · exact .inr (h.resolve_left (by rw [hr]; simp))
      · exact .inl rfl
  | written outcome =>
      obtain ⟨-, hstep⟩ | ⟨data, hf, -, hstep⟩ | ⟨data, hf, -, hstep⟩ := written_cases s outcome <;>
        rw [hstep]
      · exact h
      · exact .inl (h.resolve_right fun hnone => by rw [hf] at hnone; cases hnone.1)
      · exact .inl (h.resolve_right fun hnone => by rw [hf] at hnone; cases hnone.1)
  | publish topic msg =>
      obtain ⟨hw, -, hstep⟩ | ⟨-, -, hstep⟩ | ⟨-, -, hstep⟩ := publish_cases hstop <;> rw [hstep]
      · exact .inl (h.resolve_right fun hnone => hnone.2 hw)
      · exact h
      · exact h

/-- A client that asks to be removed has given up. -/
theorem givenUp_of_remove {l : Lane Message} {s : Connection} (h : s.Carries l) {e : ConnectionEvent}
    (hstop : (Connection.step s e).stop = none) (hmem : .remove ∈ (Connection.step s e).outputs) :
    (Connection.step s e).state.GivenUp := by
  cases e with
  | read outcome =>
      obtain ⟨-, hstep⟩ | ⟨data, -, -, -, hstep⟩ | ⟨data, -, -, -, hstep⟩ | ⟨-, -, hstep⟩ :=
        read_cases s outcome <;> rw [hstep] at hstop hmem ⊢
      · cases hmem
      · cases hstop
      · rw [Reply.done_outputs, List.mem_append] at hmem
        rcases hmem with hrequest | hlast
        · obtain ⟨r, -, hr⟩ := List.mem_map.mp hrequest
          cases hr
        · split_ifs at hlast <;> cases List.mem_singleton.mp hlast
      · exact .inl rfl
  | written outcome =>
      obtain ⟨-, hstep⟩ | ⟨data, -, -, hstep⟩ | ⟨data, hf, -, hstep⟩ := written_cases s outcome <;>
        rw [hstep] at hmem ⊢
      · cases hmem
      · rw [Reply.done_outputs] at hmem
        split_ifs at hmem
        · cases hmem
        · cases List.mem_singleton.mp hmem
      · refine .inr ⟨rfl, fun hnil => ?_⟩
        exact (h.inFlight data hf).2 (h.writing_eq_nil.mp hnil)
  | publish topic msg =>
      obtain ⟨-, -, hstep⟩ | ⟨-, -, hstep⟩ | ⟨-, -, hstep⟩ := publish_cases hstop <;>
        rw [hstep] at hmem <;> simp at hmem

theorem givenUp_of_run {es : List ConnectionEvent} {t : Connection}
    (h : connection.runFrom .start es = some t)
    (hmem : .remove ∈ (connection.spin .start es).outputs) : t.GivenUp := by
  rw [← connection.collect_outputs] at hmem
  have hrun := connection.runFrom_collect_induct (f := fun s e => (connection.step s e).outputs)
    (R := fun (outs : List Effect) s => (∃ l, s.Carries l) ∧ (.remove ∈ outs → s.GivenUp))
    ⟨⟨_, carries_start⟩, fun hnil => absurd hnil List.not_mem_nil⟩ ?_ h
  · exact hrun.2 hmem
  · rintro outs s e ⟨⟨l, hl⟩, ih⟩ hd
    obtain ⟨-, l', hl', -⟩ := hl.step e
    refine ⟨⟨l', hl'⟩, fun hmem => ?_⟩
    rcases List.mem_append.mp hmem with hold | hnew
    · exact (ih hold).step hd
    · exact givenUp_of_remove hl hd hnew

end Connection

namespace Bridge

variable {τ μ : Type} (ros : Ros τ μ)

/-- As long as a client goes on reading and writing, nothing is queued that removes it. -/
theorem leave_not_queued {es : List (BridgeEvent μ)} {t : Bridge τ}
    (h : (bridge ros).runFrom .start es = some t) {client : ClientId}
    (hgoing : ¬ (t.connections client).GivenUp) : .leave client ∉ t.node.actions := by
  intro hmem
  obtain ⟨done, horders, -⟩ := settled_of_run ros h
  have hordered : .leave client ∈ (orders ros es).filter fun a => a.member = client := by
    rw [horders, List.mem_filter]
    exact ⟨List.mem_append_right _ hmem, decide_eq_true rfl⟩
  rw [orders_of_client ros h, List.mem_filterMap] at hordered
  obtain ⟨effect, heffect, hleave⟩ := hordered
  rw [action?_leave ros hleave] at heffect
  exact hgoing (Connection.givenUp_of_run (connection_of_run ros h client) heffect)

/-- A client that is stuck, subscribed, and about whom nothing is queued. -/
structure Stranded (client : ClientId) (topic sent : Bytes) (flight : Option Bytes) (s : Bridge τ) :
    Prop where
  known : client < s.next
  stuck : (s.connections client).Stuck flight
  queue : .leave client ∉ s.node.actions
  member : client ∈ s.node.subscribers.members topic
  sent : (s.connections client).socket.sent = sent

section Stranded

variable {client : ClientId} {topic sent : Bytes} {flight : Option Bytes} {s t : Bridge τ}

theorem Stranded.complete (h : Stranded client topic sent flight s) {c : ClientId} {e : ConnectionEvent}
    (he : c = client → flight = none ∨ ∀ outcome, e ≠ .written outcome)
    (hstop : (s.complete ros c e).stop = none) :
    Stranded client topic sent flight (s.complete ros c e).state := by
  obtain ⟨-, hsame⟩ | ⟨hnext, hd⟩ := complete_cases ros hstop
  · rw [hsame]
    exact h
  · obtain ⟨-, hconnections, hnext', hsubs, hactions⟩ := complete_done ros hnext hd
    by_cases hc : c = client
    · subst hc
      obtain ⟨-, hstuck, hsent, houtputs⟩ := h.stuck.step (he rfl)
      refine ⟨hnext' ▸ h.known, ?_, ?_, hsubs ▸ h.member, ?_⟩
      · rw [hconnections, Function.update_self]
        exact hstuck
      · rw [hactions, List.mem_append, not_or]
        refine ⟨h.queue, fun hmem => ?_⟩
        obtain ⟨effect, heffect, hleave⟩ := List.mem_filterMap.mp hmem
        rw [houtputs effect heffect] at hleave
        cases hleave
      · rw [hconnections, Function.update_self]
        exact hsent.trans h.sent
    · have hother : (s.complete ros c e).state.connections client = s.connections client := by
        rw [hconnections, Function.update_of_ne (Ne.symm hc)]
      refine ⟨hnext' ▸ h.known, hother ▸ h.stuck, ?_, hsubs ▸ h.member, hother ▸ h.sent⟩
      rw [hactions, List.mem_append, not_or]
      refine ⟨h.queue, fun hmem => ?_⟩
      obtain ⟨effect, -, hleave⟩ := List.mem_filterMap.mp hmem
      exact hc (action?_member ros hleave).symm

theorem Stranded.step (h : Stranded client topic sent flight s) {e : BridgeEvent μ}
    (he : flight = none ∨ ∀ outcome, e ≠ .written client outcome)
    (hstop : (Bridge.step ros s e).stop = none) :
    Stranded client topic sent flight (Bridge.step ros s e).state := by
  cases e with
  | accept outcome =>
      obtain ⟨hnode, hconnections, hnext, -⟩ := @endAccept_spec τ μ s outcome
      show Stranded client topic sent flight (s.endAccept outcome).state
      exact ⟨h.known.trans_le hnext, hconnections ▸ h.stuck, hnode ▸ h.queue, hnode ▸ h.member,
        hconnections ▸ h.sent⟩
  | signal => exact ⟨h.known, h.stuck, h.queue, h.member, h.sent⟩
  | drain =>
      exact ⟨h.known, h.stuck, List.not_mem_nil, mem_run_of_not_leave h.member h.queue, h.sent⟩
  | read c outcome => exact h.complete ros (fun _ => .inr fun _ heq => nomatch heq) hstop
  | written c outcome =>
      refine h.complete ros (fun hc => he.imp_right fun hall => ?_) hstop
      exact absurd (hc ▸ rfl) (hall outcome)
  | message topic' msg =>
      obtain ⟨-, hnode, hnext, hconnections⟩ := handleMessage_done ros hstop
      obtain ⟨-, hstuck, hsent, -⟩ :=
        h.stuck.step (e := .publish topic' (ros.serialize msg)) (.inr fun _ heq => nomatch heq)
      show Stranded client topic sent flight (s.handleMessage ros topic' msg).state
      refine ⟨hnext ▸ h.known, ?_, hnode ▸ h.queue, hnode ▸ h.member, ?_⟩
      · rw [hconnections client]
        split_ifs
        · exact hstuck
        · exact h.stuck
      · rw [hconnections client]
        split_ifs
        · exact hsent.trans h.sent
        · exact h.sent

theorem Stranded.run (h : Stranded client topic sent flight s) {es : List (BridgeEvent μ)}
    (hes : flight = none ∨ ∀ outcome, .written client outcome ∉ es)
    (hrun : (bridge ros).runFrom s es = some t) : Stranded client topic sent flight t := by
  induction es generalizing s with
  | nil => exact Option.some.inj hrun ▸ h
  | cons e es ih =>
      obtain ⟨hd, hrest⟩ := (bridge ros).runFrom_cons_iff.mp hrun
      have he : flight = none ∨ ∀ outcome, e ≠ .written client outcome :=
        hes.imp_right fun hnot outcome heq => hnot outcome (heq ▸ List.mem_cons_self)
      exact ih (h.step ros he hd) (hes.imp_right fun hnot outcome hmem =>
        hnot outcome (List.mem_cons_of_mem e hmem)) hrest

/-- The end of its write leaves the client where it is. -/
theorem Stranded.aborted {d : Bytes} (h : Stranded client topic sent (some d) s) :
    Stranded client topic sent none (s.complete ros client (.written .aborted)).state := by
  obtain ⟨c, hstep, hstuck, hsent⟩ := h.stuck.aborted
  obtain ⟨hconnection, hnext, hsubs, hactions⟩ :=
    complete_of_step ros (e := .written .aborted) h.known hstep
  rw [List.filterMap_nil, List.append_nil] at hactions
  exact ⟨hnext ▸ h.known, hconnection ▸ hstuck, hactions ▸ h.queue, hsubs ▸ h.member,
    (hconnection ▸ hsent).trans h.sent⟩

end Stranded

/-- The end of a read with an unknown operation asks for no removal. -/
theorem leave_not_mem_unknown (client : ClientId) (rs : List Request) :
    Operation.leave client ∉ (rs.map Effect.request ++ [Effect.stop]).filterMap (action? ros client) := by
  intro hmem
  obtain ⟨effect, heffect, hleave⟩ := List.mem_filterMap.mp hmem
  obtain rfl := action?_leave ros hleave
  rcases List.mem_append.mp heffect with hrequest | hstop
  · obtain ⟨r, -, hr⟩ := List.mem_map.mp hrequest
    cases hr
  · cases List.mem_singleton.mp hstop

/-- The read that meets the unknown operation: the client is stopped, and no removal is queued. -/
theorem stranded_of_unknown {pre : List (BridgeEvent μ)} {s : Bridge τ} {client : ClientId}
    {topic data d : Bytes} (hs : (bridge ros).runFrom .start pre = some s) (hnext : client < s.next)
    (hmember : client ∈ s.node.subscribers.members topic)
    (hreading : (s.connections client).socket.reading = true)
    (hinFlight : (s.connections client).socket.inFlight = some d)
    (hunknown : ((s.connections client).found data).rejected = true) :
    Stranded client topic (s.connections client).socket.sent (some d)
      (s.complete ros client (.read (.success data))).state := by
  have hqueue : .leave client ∉ s.node.actions := by
    apply leave_not_queued ros hs
    rintro (hidle | ⟨hnone, -⟩)
    · rw [hreading] at hidle
      cases hidle
    · rw [hinFlight] at hnone
      cases hnone
  have hover : ¬ Overruns ((s.connections client).found data) := by
    intro hover
    rw [hover.1] at hunknown
    cases hunknown
  have hwriting : (s.connections client).client.writing ≠ [] := by
    obtain ⟨l, hl, -⟩ := Connection.carries_of_run (connection_of_run ros hs client)
    intro hnil
    exact (hl.inFlight d hinFlight).2 (hl.writing_eq_nil.mp hnil)
  have hread := Connection.step_read_success hreading hover
  rw [hunknown, if_pos rfl] at hread
  obtain ⟨hconnection, hnext', hsubs, hactions⟩ :=
    complete_of_step ros (e := .read (.success data)) hnext hread
  refine ⟨hnext' ▸ hnext, ?_, ?_, hsubs ▸ hmember, ?_⟩
  · rw [hconnection]
    exact Connection.stuck_of_unknown hinFlight hwriting hunknown
  · rw [hactions, List.mem_append, not_or]
    exact ⟨hqueue, leave_not_mem_unknown ros client _⟩
  · rw [hconnection]
    rfl

/-- **A client that is never removed.**  When a subscribed client sends an unknown operation while a write
to it is outstanding, and this write, whatever happens before it ends, then ends as aborted because the
socket was closed, the client stays subscribed for the rest of the run, and nothing more is written to
it. -/
theorem never_removed {pre mid es : List (BridgeEvent μ)} {s t : Bridge τ} {client : ClientId}
    {topic data d : Bytes} (hs : (bridge ros).runFrom .start pre = some s) (hnext : client < s.next)
    (hmember : client ∈ s.node.subscribers.members topic)
    (hreading : (s.connections client).socket.reading = true)
    (hinFlight : (s.connections client).socket.inFlight = some d)
    (hunknown : ((s.connections client).found data).rejected = true)
    (hmid : ∀ outcome, .written client outcome ∉ mid)
    (h : (bridge ros).runFrom s
      (.read client (.success data) :: (mid ++ .written client .aborted :: es)) = some t) :
    client ∈ t.node.subscribers.members topic ∧
      (t.connections client).socket.sent = (s.connections client).socket.sent := by
  obtain ⟨-, hrun⟩ := (bridge ros).runFrom_cons_iff.mp h
  rw [(bridge ros).runFrom_append] at hrun
  obtain ⟨u, hu, hrest⟩ := Option.bind_eq_some_iff.mp hrun
  obtain ⟨-, hrest⟩ := (bridge ros).runFrom_cons_iff.mp hrest
  have hread := stranded_of_unknown ros hs hnext hmember hreading hinFlight hunknown
  have hwait := hread.run ros (.inr hmid) hu
  have hend := (hwait.aborted ros).run ros (.inl rfl) hrest
  exact ⟨hend.member, hend.sent⟩

/-- A message to the subscriber is being written. -/
def oneMessage : List (BridgeEvent Bytes) := oneSubscriber ++ [.message [7] [1]]

/-- Before the write ends another client connects and subscribes, and there is another message. -/
def meanwhile : List (BridgeEvent Bytes) :=
  [.accept .connected, .read 1 (.success [1, 1, 0, 0, 0, 7, 1, 0, 0, 0, 9]), .drain, .message [7] [2],
    .written 1 (.success ())]

theorem never_removed_one :
    ∃ s t, (bridge bytesRos).runFrom .start oneMessage = some s ∧
      (bridge bytesRos).runFrom s (.read 0 (.success [200]) ::
        (meanwhile ++ .written 0 .aborted :: [.drain, .message [7] [3]])) = some t ∧
      0 ∈ t.node.subscribers.members [7] ∧
      (t.connections 0).socket.sent = (s.connections 0).socket.sent := by
  set s := ((bridge bytesRos).spin .start oneMessage).state
  have hs : (bridge bytesRos).runFrom .start oneMessage = some s := rfl
  have hmem : 0 ∈ s.node.subscribers.members [7] := by decide
  have hmid : ∀ outcome, .written 0 outcome ∉ meanwhile := by
    intro outcome
    simp [meanwhile]
  have hgoes : ((bridge bytesRos).runFrom s (.read 0 (.success [200]) ::
    (meanwhile ++ .written 0 .aborted :: [.drain, .message [7] [3]]))).isSome = true := by
    decide +kernel
  obtain ⟨t, ht⟩ := Option.isSome_iff_exists.mp hgoes
  have hflight : (s.connections 0).socket.inFlight = some (Connection.frame [7] [1]) := rfl
  have hunknown : ((s.connections 0).found [200]).rejected = true := rfl
  exact ⟨s, t, hs, ht, never_removed bytesRos hs (by decide) hmem rfl hflight hunknown hmid ht⟩

end Bridge

end HitchOpen.LgsvlBridge
