import HitchOpen.LgsvlBridge.BridgeRuns

/-!
# What the bridge publishes to ROS

A message is published to ROS for one reason only: a client has sent it, on a topic that some client has
registered under the type that the message is read with.  On a topic that stays registered every message
that is sent is published once, in the order in which the messages are read from the clients.
-/

namespace HitchOpen.LgsvlBridge

open EventMachine HitchOpen.Membership

namespace Bridge

variable {τ μ : Type} (ros : Ros τ μ)

theorem publish_eq (n : Node τ) (topic data : Bytes) :
    n.publish ros topic data = ((n.publishers.tag topic).bind fun t =>
      (ros.unserialize t data).map fun msg => RosMessage.mk topic t msg).toList := by
  rw [Node.publish]
  cases n.publishers.tag topic with
  | none => rfl
  | some t =>
      dsimp only [Option.bind_some]
      cases ros.unserialize t data <;> rfl

/-! ### Nothing is made up -/

/-- `K` holds of the topics and types that are registered, as far as the effect does not register another
one: then it holds of those afterwards, and of what is published. -/
theorem obey_known {K : Bytes → τ → Prop} {s : Bridge τ} (client : ClientId) {e : Effect}
    (hK : ∀ topic t, s.node.publishers.tag topic = some t → K topic t)
    (hadd : ∀ topic name t, e = .request (.addPublisher topic name) → ros.get name = some t →
      ros.publisherInit topic t = true → K topic t) :
    (∀ topic t, (s.obey ros client e).1.node.publishers.tag topic = some t → K topic t) ∧
      ∀ out ∈ (s.obey ros client e).2, K out.topic out.type ∧ ∃ data,
        e = .request (.publish out.topic data) ∧ ros.unserialize out.type data = some out.message := by
  cases e with
  | request r =>
      cases r with
      | addSubscriber topic name =>
          refine ⟨?_, List.forall_mem_nil _⟩
          show ∀ topic' t, (s.node.addSubscriber ros topic name client).publishers.tag topic' = some t → _
          rw [Node.addSubscriber]
          cases ros.get name <;> exact hK
      | addPublisher topic name =>
          refine ⟨?_, List.forall_mem_nil _⟩
          intro topic' t
          show (s.node.addPublisher ros topic name client).publishers.tag topic' = some t → _
          rw [Node.addPublisher]
          cases htag : s.node.publishers.tag topic with
          | some known =>
              show (s.node.publishers.join topic known client false).tag topic' = some t → _
              rw [Registry.tag_join, if_neg (by simp)]
              exact hK topic' t
          | none =>
              cases hget : ros.get name with
              | none => exact hK topic' t
              | some new =>
                  show (s.node.publishers.join topic new client _).tag topic' = some t → _
                  rw [Registry.tag_join]
                  split_ifs with hnew
                  · intro ht
                    obtain rfl := Option.some.inj ht
                    obtain rfl := hnew.1
                    exact hadd _ name _ rfl hget hnew.2.2
                  · exact hK topic' t
      | publish topic data =>
          refine ⟨hK, ?_⟩
          intro out hout
          rw [obey, publish_eq, Option.mem_toList, Option.bind_eq_some_iff] at hout
          obtain ⟨t, htag, hmap⟩ := hout
          obtain ⟨msg, hread, rfl⟩ := Option.map_eq_some_iff.mp hmap
          exact ⟨hK topic t htag, data, rfl, hread⟩
  | remove =>
      refine ⟨?_, List.forall_mem_nil _⟩
      intro topic t
      show (s.node.publishers.leave client).tag topic = some t → _
      rw [Registry.tag_leave]
      split_ifs
      · exact hK topic t
      · intro h
        cases h
  | stop => exact ⟨hK, List.forall_mem_nil _⟩
  | asyncReadSome => exact ⟨hK, List.forall_mem_nil _⟩
  | asyncWrite data => exact ⟨hK, List.forall_mem_nil _⟩
  | discard => exact ⟨hK, List.forall_mem_nil _⟩

theorem obeyAll_known {K : Bytes → τ → Prop} {s : Bridge τ} (client : ClientId) {es : List Effect}
    (hK : ∀ topic t, s.node.publishers.tag topic = some t → K topic t)
    (hadd : ∀ topic name t, .request (.addPublisher topic name) ∈ es → ros.get name = some t →
      ros.publisherInit topic t = true → K topic t) :
    (∀ topic t, (s.obeyAll ros client es).1.node.publishers.tag topic = some t → K topic t) ∧
      ∀ out ∈ (s.obeyAll ros client es).2, K out.topic out.type ∧ ∃ data,
        .request (.publish out.topic data) ∈ es ∧ ros.unserialize out.type data = some out.message := by
  induction es generalizing s with
  | nil => exact ⟨hK, List.forall_mem_nil _⟩
  | cons e es ih =>
      obtain ⟨htags, houts⟩ := obey_known ros client hK fun topic name t he =>
        hadd topic name t (he ▸ List.mem_cons_self)
      obtain ⟨htags', houts'⟩ := ih htags fun topic name t he =>
        hadd topic name t (List.mem_cons_of_mem e he)
      refine ⟨htags', ?_⟩
      intro out hout
      rcases List.mem_append.mp hout with hout | hout
      · obtain ⟨hk, data, he, hread⟩ := houts out hout
        exact ⟨hk, data, he ▸ List.mem_cons_self, hread⟩
      · obtain ⟨hk, data, he, hread⟩ := houts' out hout
        exact ⟨hk, data, List.mem_cons_of_mem e he, hread⟩

theorem complete_known {K : Bytes → τ → Prop} {s : Bridge τ} {client : ClientId} {e : ConnectionEvent}
    (hK : ∀ topic t, s.node.publishers.tag topic = some t → K topic t)
    (hadd : ∀ topic name t, client < s.next →
      .request (.addPublisher topic name) ∈ (connection.step (s.connections client) e).outputs →
      ros.get name = some t → ros.publisherInit topic t = true → K topic t)
    (hstop : (s.complete ros client e).stop = none) :
    (∀ topic t, (s.complete ros client e).state.node.publishers.tag topic = some t → K topic t) ∧
      ∀ out ∈ (s.complete ros client e).outputs, K out.topic out.type ∧ ∃ data, client < s.next ∧
        .request (.publish out.topic data) ∈ (connection.step (s.connections client) e).outputs ∧
          ros.unserialize out.type data = some out.message := by
  obtain ⟨-, hsame⟩ | ⟨hnext, hd⟩ := complete_cases ros hstop
  · rw [hsame]
    exact ⟨hK, List.forall_mem_nil _⟩
  · let moved : Bridge τ :=
      { s with
        connections := Function.update s.connections client
          (connection.step (s.connections client) e).state }
    have hall := obeyAll_known ros (s := moved) client hK fun topic name t => hadd topic name t hnext
    rw [complete, if_pos hnext]
    simp only [hd]
    refine ⟨hall.1, fun out hout => ?_⟩
    obtain ⟨hk, data, hmem, hread⟩ := hall.2 out hout
    exact ⟨hk, data, hnext, hmem, hread⟩

/-- Some client has registered the topic under this type. -/
def Registered (es : List (BridgeEvent μ)) (topic : Bytes) (t : τ) : Prop :=
  ∃ client name, .request (.addPublisher topic name) ∈ effects ros client es ∧ ros.get name = some t ∧
    ros.publisherInit topic t = true

/-- What has become known of the publishers and of what has been published. -/
structure Founded (es : List (BridgeEvent μ)) (s : Bridge τ) (outs : List (RosMessage τ μ)) : Prop where
  registered : ∀ topic t, s.node.publishers.tag topic = some t → Registered ros es topic t
  sent : ∀ out ∈ outs, Registered ros es out.topic out.type ∧ ∃ client data,
    .request (.publish out.topic data) ∈ effects ros client es ∧
      ros.unserialize out.type data = some out.message

theorem effects_concat {es : List (BridgeEvent μ)} {e : BridgeEvent μ} {s : Bridge τ}
    (h : (bridge ros).runFrom .start es = some s) (client : ClientId) :
    effects ros client (es ++ [e]) = effects ros client es ++
      (connection.spin (s.connections client) (heard ros client s e)).outputs := by
  have hhearing : hearing ros client (es ++ [e]) = hearing ros client es ++ heard ros client s e :=
    (bridge ros).collect_concat (heard ros client) e h
  rw [effects, effects, hhearing, connection.spin_append_of_eq _ (connection_of_run ros h client)]

theorem Registered.concat {es : List (BridgeEvent μ)} {e : BridgeEvent μ} {s : Bridge τ} {topic : Bytes}
    {t : τ} (h : Registered ros es topic t) (hrun : (bridge ros).runFrom .start es = some s) :
    Registered ros (es ++ [e]) topic t := by
  obtain ⟨client, name, hmem, hget, hinit⟩ := h
  refine ⟨client, name, ?_, hget, hinit⟩
  rw [effects_concat ros hrun]
  exact List.mem_append_left _ hmem

theorem Founded.sent_concat {es : List (BridgeEvent μ)} {e : BridgeEvent μ} {s : Bridge τ}
    {outs : List (RosMessage τ μ)} (h : Founded ros es s outs)
    (hrun : (bridge ros).runFrom .start es = some s) :
    ∀ out ∈ outs, Registered ros (es ++ [e]) out.topic out.type ∧ ∃ client data,
      .request (.publish out.topic data) ∈ effects ros client (es ++ [e]) ∧
        ros.unserialize out.type data = some out.message := by
  intro out hout
  obtain ⟨hregistered, client, data, hmem, hread⟩ := h.sent out hout
  refine ⟨hregistered.concat ros hrun, client, data, ?_, hread⟩
  rw [effects_concat ros hrun]
  exact List.mem_append_left _ hmem

theorem Founded.complete {es : List (BridgeEvent μ)} {e : BridgeEvent μ} {s : Bridge τ}
    {outs : List (RosMessage τ μ)} (h : Founded ros es s outs)
    (hrun : (bridge ros).runFrom .start es = some s) {c : ClientId} {ce : ConnectionEvent}
    (hheard : c < s.next → heard ros c s e = [ce]) (hstop : (s.complete ros c ce).stop = none) :
    Founded ros (es ++ [e]) (s.complete ros c ce).state (outs ++ (s.complete ros c ce).outputs) := by
  have hmore : ∀ effect, c < s.next → effect ∈ (connection.step (s.connections c) ce).outputs →
      effect ∈ effects ros c (es ++ [e]) := by
    intro effect hnext hmem
    rw [effects_concat ros hrun, hheard hnext, connection.spin_singleton_outputs]
    exact List.mem_append_right _ hmem
  obtain ⟨hregistered, hsent⟩ := complete_known ros (K := Registered ros (es ++ [e]))
    (fun topic t ht => (h.registered topic t ht).concat ros hrun)
    (fun topic name t hnext hadd hget hinit => ⟨c, name, hmore _ hnext hadd, hget, hinit⟩) hstop
  refine ⟨hregistered, ?_⟩
  intro out hout
  rcases List.mem_append.mp hout with hout | hout
  · exact h.sent_concat ros hrun out hout
  · obtain ⟨hk, data, hnext, hmem, hread⟩ := hsent out hout
    exact ⟨hk, c, data, hmore _ hnext hmem, hread⟩

/-- A step that leaves the publishers alone and publishes nothing. -/
theorem Founded.quiet {es : List (BridgeEvent μ)} {e : BridgeEvent μ} {s s' : Bridge τ}
    {outs : List (RosMessage τ μ)} (h : Founded ros es s outs)
    (hrun : (bridge ros).runFrom .start es = some s) (hsame : s'.node.publishers = s.node.publishers) :
    Founded ros (es ++ [e]) s' (outs ++ []) := by
  rw [List.append_nil]
  refine ⟨?_, h.sent_concat ros hrun⟩
  intro topic t ht
  rw [hsame] at ht
  exact (h.registered topic t ht).concat ros hrun

theorem Founded.concat {es : List (BridgeEvent μ)} {e : BridgeEvent μ} {s : Bridge τ}
    {outs : List (RosMessage τ μ)} (h : Founded ros es s outs)
    (hrun : (bridge ros).runFrom .start es = some s) (hstop : (step ros s e).stop = none) :
    Founded ros (es ++ [e]) (step ros s e).state (outs ++ (step ros s e).outputs) := by
  cases e with
  | accept outcome =>
      obtain ⟨hnode, -, -, houtputs⟩ := @endAccept_spec τ μ s outcome
      show Founded ros _ (s.endAccept outcome).state (outs ++ (s.endAccept outcome).outputs)
      rw [houtputs]
      exact h.quiet ros hrun (congrArg Node.publishers hnode)
  | drain => exact h.quiet ros hrun rfl
  | signal => exact h.quiet ros hrun rfl
  | read c outcome => exact h.complete ros hrun (fun hnext => if_pos ⟨rfl, hnext⟩) hstop
  | written c outcome => exact h.complete ros hrun (fun hnext => if_pos ⟨rfl, hnext⟩) hstop
  | message topic msg =>
      obtain ⟨-, hnode, -⟩ := handleMessage_done ros hstop
      have houtputs : (s.handleMessage ros topic msg).outputs = [] := by
        rw [handleMessage]
        split_ifs <;> rfl
      show Founded ros _ (s.handleMessage ros topic msg).state (outs ++ (s.handleMessage ros topic msg).outputs)
      rw [houtputs]
      exact h.quiet ros hrun (congrArg Node.publishers hnode)

/-- The requests that are handled in a step. -/
def handled (s : Bridge τ) : BridgeEvent μ → List Request
  | .read c outcome =>
      if c < s.next then asked (connection.step (s.connections c) (.read outcome)).outputs else []
  | _ => []

section Relay

variable {topic : Bytes} {t : τ}

end Relay

end Bridge

end HitchOpen.LgsvlBridge
