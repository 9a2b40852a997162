import HitchOpen.LgsvlBridge.Bridge
import HitchOpen.LgsvlBridge.RequestStream
import HitchOpen.LgsvlBridge.WriteQueue

/-!
# Runs of the simulator bridge

A client cannot tell the bridge from a run of its own connection: `connection_of_run` says that the one
is found in the other, with what the client has heard as its events.  So what holds of every connection
holds of every client of the bridge, however the steps of the two threads and of the other clients
interleave.

The registry of the subscribers is the result of the actions that have been carried out, in the order in
which they were entered.
-/

namespace HitchOpen.LgsvlBridge

open HitchOpen.Runtime EventMachine HitchOpen.Membership

namespace Bridge

variable {τ μ : Type} (ros : Ros τ μ)

/-- What a step is to a client. -/
def heard (client : ClientId) (s : Bridge τ) : BridgeEvent μ → List ConnectionEvent
  | .read c outcome => if c = client ∧ client < s.next then [.read outcome] else []
  | .written c outcome => if c = client ∧ client < s.next then [.written outcome] else []
  | .message topic msg =>
      if client ∈ s.node.subscribers.members topic then [.publish topic (ros.serialize msg)] else []
  | _ => []

theorem complete_connection {s : Bridge τ} {c : ClientId} {e : ConnectionEvent} (client : ClientId)
    (hstop : (s.complete ros c e).stop = none) :
    connection.runFrom (s.connections client) (if c = client ∧ client < s.next then [e] else []) =
      some ((s.complete ros c e).state.connections client) := by
  obtain ⟨hnext, hsame⟩ | ⟨hnext, hd⟩ := complete_cases ros hstop
  · have hneg : ¬ (c = client ∧ client < s.next) := by
      rintro ⟨rfl, h⟩
      exact hnext h
    rw [hsame, if_neg hneg]
    rfl
  · obtain ⟨-, hconnections, -⟩ := complete_done ros hnext hd
    rw [hconnections]
    by_cases hc : c = client
    · subst hc
      rw [if_pos ⟨rfl, hnext⟩, Function.update_self]
      exact connection.runFrom_cons_done [] hd
    · rw [if_neg fun h => hc h.1, Function.update_of_ne (Ne.symm hc)]
      rfl

theorem step_connection {s : Bridge τ} {e : BridgeEvent μ} (client : ClientId)
    (hstop : (step ros s e).stop = none) :
    connection.runFrom (s.connections client) (heard ros client s e) =
      some ((step ros s e).state.connections client) := by
  cases e with
  | accept outcome => exact congrArg (fun cs => some (cs client)) (s.endAccept_spec outcome).2.1.symm
  | drain => rfl
  | signal => rfl
  | read c outcome => exact complete_connection ros client hstop
  | written c outcome => exact complete_connection ros client hstop
  | message topic msg =>
      obtain ⟨hall, -, -, hconnections⟩ := handleMessage_done ros hstop
      show _ = some ((s.handleMessage ros topic msg).state.connections client)
      rw [hconnections client, heard]
      by_cases hc : client ∈ s.node.subscribers.members topic
      · rw [if_pos hc, if_pos hc]
        exact connection.runFrom_cons_done [] (hall client hc)
      · rw [if_neg hc, if_neg hc]
        rfl

/-- What a client hears in the course of a run. -/
def hearing (client : ClientId) (es : List (BridgeEvent μ)) : List ConnectionEvent :=
  (bridge ros).collect (heard ros client) .start es

/-- **Projection.**  Every client of the bridge is where its own connection gets with what it has
heard. -/
theorem connection_of_run {es : List (BridgeEvent μ)} {t : Bridge τ}
    (h : (bridge ros).runFrom .start es = some t) (client : ClientId) :
    connection.runFrom .start (hearing ros client es) = some (t.connections client) := by
  refine (bridge ros).runFrom_collect_induct
    (R := fun ks s => connection.runFrom .start ks = some (s.connections client)) rfl ?_ h
  intro ks s e hks hd
  rw [connection.runFrom_append_of_eq _ hks]
  exact step_connection ros client hd

/-! ### What stops the bridge -/

/-- ROS with one type, whose messages are bytes. -/
def bytesRos : Ros Unit Bytes :=
  ⟨fun _ => some (), fun _ _ => true, fun _ _ => true, id, fun _ data => some data⟩

/-- The actions that a step enters into the queue. -/
def ordered (s : Bridge τ) : BridgeEvent μ → List (Action τ)
  | .read c outcome =>
      if c < s.next then
        (connection.step (s.connections c) (.read outcome)).outputs.filterMap (action? ros c)
      else []
  | .written c outcome =>
      if c < s.next then
        (connection.step (s.connections c) (.written outcome)).outputs.filterMap (action? ros c)
      else []
  | _ => []

/-- All actions of a run, in the order in which they have been entered. -/
def orders (es : List (BridgeEvent μ)) : List (Action τ) := (bridge ros).collect (ordered ros) .start es

/-- Some of the actions have been carried out and the others are in the queue. -/
def Settled (acts : List (Action τ)) (s : Bridge τ) : Prop :=
  ∃ done, acts = done ++ s.node.actions ∧
    s.node.subscribers = done.foldl (Registry.run ros.subscriptionInit) .empty

theorem Settled.complete {acts : List (Action τ)} {s : Bridge τ} (h : Settled ros acts s) {c : ClientId}
    {e : ConnectionEvent} (hstop : (s.complete ros c e).stop = none) :
    Settled ros (acts ++ if c < s.next then
      (connection.step (s.connections c) e).outputs.filterMap (action? ros c) else [])
      (s.complete ros c e).state := by
  obtain ⟨done, hacts, hsubs⟩ := h
  obtain ⟨hnext, hsame⟩ | ⟨hnext, hd⟩ := complete_cases ros hstop
  · rw [hsame, if_neg hnext, List.append_nil]
    exact ⟨done, hacts, hsubs⟩
  · obtain ⟨-, -, -, hsubs', hactions⟩ := complete_done ros hnext hd
    rw [if_pos hnext]
    refine ⟨done, ?_, hsubs'.trans hsubs⟩
    rw [hactions, hacts, List.append_assoc]

/-- **Actions are carried out in order.**  In every state reached, the subscribers are what the actions
entered so far have made of them, up to those in the queue. -/
theorem settled_of_run {es : List (BridgeEvent μ)} {t : Bridge τ}
    (h : (bridge ros).runFrom .start es = some t) : Settled ros (orders ros es) t := by
  refine (bridge ros).runFrom_collect_induct (R := Settled ros) ⟨[], rfl, rfl⟩ ?_ h
  intro acts s e hs hd
  cases e with
  | read c outcome => exact hs.complete ros hd
  | written c outcome => exact hs.complete ros hd
  | accept outcome =>
      obtain ⟨done, hacts, hsubs⟩ := hs
      obtain ⟨hnode, -⟩ := @endAccept_spec τ μ s outcome
      refine ⟨done, ?_, ?_⟩
      · show acts ++ [] = done ++ (s.endAccept outcome).state.node.actions
        rw [hnode, hacts, List.append_nil]
      · show (s.endAccept outcome).state.node.subscribers = _
        rw [hnode, hsubs]
  | signal => exact (List.append_nil acts).symm ▸ hs
  | drain =>
      obtain ⟨done, hacts, hsubs⟩ := hs
      refine ⟨acts, rfl, ?_⟩
      show s.node.actions.foldl _ s.node.subscribers = _
      rw [hacts, List.foldl_append, hsubs]
  | message topic msg =>
      obtain ⟨-, hnode, -, -⟩ := handleMessage_done ros hd
      obtain ⟨done, hacts, hsubs⟩ := hs
      refine ⟨done, ?_, ?_⟩
      · show acts ++ [] = done ++ (s.handleMessage ros topic msg).state.node.actions
        rw [hnode, hacts, List.append_nil]
      · show (s.handleMessage ros topic msg).state.node.subscribers = _
        rw [hnode, hsubs]

/-- What a client has asked for in the course of a run. -/
def effects (client : ClientId) (es : List (BridgeEvent μ)) : List Effect :=
  (connection.spin .start (hearing ros client es)).outputs

theorem action?_member {client : ClientId} {e : Effect} {a : Action τ}
    (h : action? ros client e = some a) : a.member = client := by
  cases e with
  | request r =>
      cases r with
      | addSubscriber topic type =>
          obtain ⟨t, -, rfl⟩ := Option.map_eq_some_iff.mp h
          rfl
      | addPublisher topic type => cases h
      | publish topic message => cases h
  | remove =>
      obtain rfl := Option.some.inj h
      rfl
  | stop => cases h
  | asyncReadSome => cases h
  | asyncWrite data => cases h
  | discard => cases h

/-- The actions of a client are among all actions those that name it. -/
theorem filter_actions (client c : ClientId) (es : List Effect) :
    (es.filterMap (action? ros c)).filter (fun a => a.member = client) =
      if c = client then es.filterMap (action? ros c) else [] := by
  by_cases hc : c = client
  · rw [if_pos hc, List.filter_eq_self]
    intro a ha
    obtain ⟨e, -, he⟩ := List.mem_filterMap.mp ha
    exact decide_eq_true (hc ▸ action?_member ros he)
  · rw [if_neg hc, List.filter_eq_nil_iff]
    intro a ha
    obtain ⟨e, -, he⟩ := List.mem_filterMap.mp ha
    simpa using fun h => hc ((action?_member ros he).symm.trans h)

theorem publish_actions (client : ClientId) (s : Connection) (topic msg : Bytes) :
    (s.step (.publish topic msg)).outputs.filterMap (action? ros client) = [] := by
  by_cases hw : s.client.writing = []
  · cases hf : s.socket.inFlight with
    | none =>
        rw [Connection.step_publish_idle topic msg hw hf]
        rfl
    | some data =>
        rw [Connection.step, Client.publish, if_pos hw, Connection.answer_overlap _ _ hf]
        rfl
  · by_cases hp : s.client.pending.length < maxPendingSize
    · rw [Connection.step_publish_busy topic msg hw hp]
      rfl
    · rw [Connection.step_publish_full topic msg hw (Nat.le_of_not_lt hp)]
      rfl

theorem filter_ordered (client : ClientId) (s : Bridge τ) (e : BridgeEvent μ) :
    (ordered ros s e).filter (fun a => a.member = client) =
      (connection.spin (s.connections client) (heard ros client s e)).outputs.filterMap
        (action? ros client) := by
  have hcomplete : ∀ c ev, (if c < s.next then
      (connection.step (s.connections c) ev).outputs.filterMap (action? ros c) else []).filter
        (fun a => a.member = client) = (connection.spin (s.connections client)
          (if c = client ∧ client < s.next then [ev] else [])).outputs.filterMap (action? ros client) := by
    intro c ev
    by_cases hc : c = client
    · subst hc
      by_cases hnext : c < s.next
      · rw [if_pos hnext, if_pos ⟨rfl, hnext⟩, filter_actions, if_pos rfl,
          connection.spin_singleton_outputs]
      · have hneg : ¬ (c = c ∧ c < s.next) := fun h => hnext h.2
        rw [if_neg hnext, if_neg hneg]
        rfl
    · have hneg : ¬ (c = client ∧ client < s.next) := fun h => hc h.1
      rw [if_neg hneg]
      by_cases hnext : c < s.next
      · rw [if_pos hnext, filter_actions, if_neg hc]
        rfl
      · rw [if_neg hnext]
        rfl
  cases e with
  | read c outcome => exact hcomplete c _
  | written c outcome => exact hcomplete c _
  | accept outcome => rfl
  | drain => rfl
  | signal => rfl
  | message topic msg =>
      rw [heard]
      by_cases hc : client ∈ s.node.subscribers.members topic
      · rw [if_pos hc, connection.spin_singleton_outputs]
        exact (publish_actions ros client _ topic _).symm
      · rw [if_neg hc]
        rfl

/-- The actions that name a client are those that it has asked for. -/
theorem orders_of_client {es : List (BridgeEvent μ)} {t : Bridge τ}
    (h : (bridge ros).runFrom .start es = some t) (client : ClientId) :
    (orders ros es).filter (fun a => a.member = client) =
      (effects ros client es).filterMap (action? ros client) := by
  induction es using List.reverseRecOn generalizing t with
  | nil => rfl
  | append_singleton es e ih =>
      obtain ⟨s, hs, -, -⟩ := (bridge ros).runFrom_concat_iff.mp h
      have horders : orders ros (es ++ [e]) = orders ros es ++ ordered ros s e :=
        (bridge ros).collect_concat (ordered ros) e hs
      have hhearing : hearing ros client (es ++ [e]) = hearing ros client es ++ heard ros client s e :=
        (bridge ros).collect_concat (heard ros client) e hs
      rw [horders, List.filter_append, ih hs, filter_ordered, effects, effects, hhearing,
        connection.spin_append_of_eq _ (connection_of_run ros hs client), List.filterMap_append]

theorem action?_join {client c : ClientId} {e : Effect} {topic : Bytes} {t : τ}
    (h : action? ros client e = some (.join topic t c)) :
    ∃ type, ros.get type = some t ∧ e = .request (.addSubscriber topic type) := by
  cases e with
  | request r =>
      cases r with
      | addSubscriber topic' type =>
          obtain ⟨t', hget, heq⟩ := Option.map_eq_some_iff.mp h
          obtain ⟨rfl, rfl, -⟩ := Operation.join.inj heq
          exact ⟨type, hget, rfl⟩
      | addPublisher topic' type => cases h
      | publish topic' message => cases h
  | remove => cases h
  | stop => cases h
  | asyncReadSome => cases h
  | asyncWrite data => cases h
  | discard => cases h

theorem action?_leave {client c : ClientId} {e : Effect} (h : action? ros client e = some (.leave c)) :
    e = .remove := by
  cases e with
  | request r =>
      cases r with
      | addSubscriber topic type =>
          obtain ⟨t, -, heq⟩ := Option.map_eq_some_iff.mp h
          cases heq
      | addPublisher topic type => cases h
      | publish topic message => cases h
  | remove => rfl
  | stop => cases h
  | asyncReadSome => cases h
  | asyncWrite data => cases h
  | discard => cases h

theorem joined_actions_iff {client : ClientId} {topic : Bytes} {es : List Effect} :
    Joined topic client (es.filterMap (action? ros client)) ↔
      ∃ before type after, ros.get type ≠ none ∧ .remove ∉ after ∧
        es = before ++ .request (.addSubscriber topic type) :: after := by
  refine ⟨?_, ?_⟩
  · rintro ⟨pre, t, post, heq, hpost⟩
    obtain ⟨before, rest, rfl, -, hrest⟩ := List.filterMap_eq_append_iff.mp heq
    obtain ⟨skipped, e, after, rfl, -, he, rfl⟩ := List.filterMap_eq_cons_iff.mp hrest
    obtain ⟨type, hget, rfl⟩ := action?_join ros he
    refine ⟨before ++ skipped, type, after, by rw [hget]; simp, fun hmem => hpost ?_,
      (List.append_assoc _ _ _).symm⟩
    exact List.mem_filterMap.mpr ⟨.remove, hmem, rfl⟩
  · rintro ⟨before, type, after, hget, hafter, rfl⟩
    obtain ⟨t, ht⟩ := Option.ne_none_iff_exists'.mp hget
    refine ⟨before.filterMap (action? ros client), t, after.filterMap (action? ros client), ?_, ?_⟩
    · rw [List.filterMap_append, List.filterMap_cons_some]
      rw [action?, ht]
      rfl
    · intro hmem
      obtain ⟨e, he, hleave⟩ := List.mem_filterMap.mp hmem
      exact hafter (action?_leave ros hleave ▸ he)

/-- **Who is subscribed.**  When the queue is empty, a client gets the messages of a topic only if it has
asked for the topic, by a type that is known, and has not been removed since. -/
theorem asked_of_subscribed {es : List (BridgeEvent μ)} {t : Bridge τ}
    (h : (bridge ros).runFrom .start es = some t) (hdrained : t.node.actions = []) {client : ClientId}
    {topic : Bytes} (hmem : client ∈ t.node.subscribers.members topic) :
    ∃ before type after, ros.get type ≠ none ∧ .remove ∉ after ∧
      effects ros client es = before ++ .request (.addSubscriber topic type) :: after := by
  obtain ⟨done, horders, hsubs⟩ := settled_of_run ros h
  rw [hdrained, List.append_nil] at horders
  rw [hsubs, ← horders] at hmem
  have hjoined := joined_filter_iff.mpr (joined_of_mem hmem)
  rw [orders_of_client ros h] at hjoined
  exact (joined_actions_iff ros).mp hjoined

/-- A client subscribes to a topic. -/
def oneSubscriber : List (BridgeEvent Bytes) :=
  [.accept .connected, .read 0 (.success [1, 1, 0, 0, 0, 7, 1, 0, 0, 0, 9]), .drain]

theorem asked_of_subscribed_one :
    ∃ t before type after, (bridge bytesRos).runFrom .start oneSubscriber = some t ∧
      0 ∈ t.node.subscribers.members [7] ∧ bytesRos.get type ≠ none ∧ .remove ∉ after ∧
      effects bytesRos 0 oneSubscriber = before ++ .request (.addSubscriber [7] type) :: after := by
  have hrun : (bridge bytesRos).runFrom .start oneSubscriber =
    some ((bridge bytesRos).spin .start oneSubscriber).state := rfl
  have hmem : 0 ∈ ((bridge bytesRos).spin .start oneSubscriber).state.node.subscribers.members [7] := by
    decide
  obtain ⟨before, type, after, h⟩ := asked_of_subscribed bytesRos hrun rfl hmem
  exact ⟨_, before, type, after, hrun, hmem, h⟩

/-- A client that has not been removed gets exactly the topics that its bytes have asked for. -/
theorem subscribed_iff {es : List (BridgeEvent μ)} {t : Bridge τ}
    (h : (bridge ros).runFrom .start es = some t) (hdrained : t.node.actions = [])
    (hinit : ∀ topic type c, .join topic type c ∈ orders ros es → ros.subscriptionInit topic type = true)
    {client : ClientId} (hclient : .remove ∉ effects ros client es) (topic : Bytes) :
    client ∈ t.node.subscribers.members topic ↔ ∃ type, ros.get type ≠ none ∧
      .addSubscriber topic type ∈ (requests (t.connections client).socket.received).items := by
  obtain ⟨done, horders, hsubs⟩ := settled_of_run ros h
  rw [hdrained, List.append_nil] at horders
  have hreading := Connection.reading_of_run (connection_of_run ros h client)
  rw [hsubs, ← horders, mem_run_iff hinit, ← joined_filter_iff, orders_of_client ros h,
    joined_actions_iff, ← hreading.asked]
  refine ⟨?_, ?_⟩
  · rintro ⟨before, type, after, hget, -, heq⟩
    refine ⟨type, hget, List.mem_filterMap.mpr ⟨.request (.addSubscriber topic type), ?_, rfl⟩⟩
    show _ ∈ effects ros client es
    rw [heq]
    exact List.mem_append_right _ List.mem_cons_self
  · rintro ⟨type, hget, hmem⟩
    obtain ⟨e, he, hrequest⟩ := List.mem_filterMap.mp hmem
    obtain ⟨before, after, heq⟩ := List.append_of_mem he
    cases e with
    | request r =>
        obtain rfl := Option.some.inj hrequest
        refine ⟨before, type, after, hget, fun hafter => hclient ?_, heq⟩
        rw [show effects ros client es = _ from heq]
        exact List.mem_append_right _ (List.mem_cons_of_mem _ hafter)
    | remove => cases hrequest
    | stop => cases hrequest
    | asyncReadSome => cases hrequest
    | asyncWrite data => cases hrequest
    | discard => cases hrequest

theorem subscribed_iff_one :
    ∃ t, (bridge bytesRos).runFrom .start oneSubscriber = some t ∧ ∀ topic,
      (0 ∈ t.node.subscribers.members topic ↔ ∃ type, bytesRos.get type ≠ none ∧
        .addSubscriber topic type ∈ (requests (t.connections 0).socket.received).items) := by
  have hrun : (bridge bytesRos).runFrom .start oneSubscriber = some _ := rfl
  have hclient : .remove ∉ effects bytesRos 0 oneSubscriber := by decide
  exact ⟨_, hrun, subscribed_iff bytesRos hrun rfl (fun _ _ _ _ => rfl) hclient⟩

end Bridge

end HitchOpen.LgsvlBridge
