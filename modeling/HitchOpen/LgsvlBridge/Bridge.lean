import Mathlib.Logic.Function.Basic
import HitchOpen.Library.Membership
import HitchOpen.LgsvlBridge.Connection

/-!
# The simulator bridge

The server accepts clients and reads from them and writes to them on one thread; the node takes messages
from ROS on another and hands them to the clients that have subscribed.  What the two have in common is
the queue of actions: a client that subscribes or is removed is entered there, and the node's thread
carries the actions out before it looks for messages.  The registry of publishers belongs to the server's
thread alone.

Here the steps of the two threads interleave in any order.  A step is what a thread does under one lock,
or to data that is its own.  A read goes through all its requests in one step: between two of them the
other thread could carry out those actions that have been entered, which it does in the next step here.

Memory does not run out, sockets close without an error, and of the calls of `rcl` only those fail that
`Ros` names.
-/

namespace HitchOpen.LgsvlBridge

open EventMachine HitchOpen.Membership

abbrev ClientId := ℕ

/-- What the bridge takes from ROS: the types by their names, whether a subscription or a publisher can be
made, and the two directions of the conversion. -/
structure Ros (τ μ : Type) where
  /-- `MessageTypes::get` -/
  get : Bytes → Option τ
  /-- `rcl_subscription_init` succeeds. -/
  subscriptionInit : Bytes → τ → Bool
  /-- `rcl_publisher_init` succeeds. -/
  publisherInit : Bytes → τ → Bool
  /-- `Serialize` -/
  serialize : μ → Bytes
  /-- `Unserialize`, where it returns `true` -/
  unserialize : τ → Bytes → Option μ

/-- What `add_subscriber` and `remove` leave to the node's thread. -/
abbrev Action (τ : Type) := Operation Bytes τ ClientId

structure Node (τ : Type) where
  publishers : Registry Bytes τ ClientId
  subscribers : Registry Bytes τ ClientId
  actions : List (Action τ)

/-- A call of `rcl_publish`. -/
structure RosMessage (τ μ : Type) where
  topic : Bytes
  type : τ
  message : μ
  deriving DecidableEq

namespace Node

variable {τ μ : Type} (ros : Ros τ μ) (n : Node τ)

def new : Node τ := ⟨.empty, .empty, []⟩

def remove (client : ClientId) : Node τ :=
  { n with
    actions := n.actions ++ [.leave client]
    publishers := n.publishers.leave client }

def addSubscriber (topic type : Bytes) (client : ClientId) : Node τ :=
  match ros.get type with
  | none => n
  | some messageType => { n with actions := n.actions ++ [.join topic messageType client] }

/-- The type counts for a topic without publishers only. -/
def addPublisher (topic type : Bytes) (client : ClientId) : Node τ :=
  match n.publishers.tag topic with
  | some messageType => { n with publishers := n.publishers.join topic messageType client false }
  | none =>
      match ros.get type with
      | none => n
      | some messageType =>
          { n with publishers :=
              n.publishers.join topic messageType client (ros.publisherInit topic messageType) }

/-- Where `malloc` fails or `type->init` returns `false`, the source publishes nothing; these two branches
are not represented. -/
def publish (topic data : Bytes) : List (RosMessage τ μ) :=
  match n.publishers.tag topic with
  | none => []
  | some type =>
      match ros.unserialize type data with
      | some msg => [⟨topic, type, msg⟩]
      | none => []

/-- What `execute` does with the actions. -/
def drain : Node τ :=
  { n with
    subscribers := n.actions.foldl (Registry.run ros.subscriptionInit) n.subscribers
    actions := [] }

end Node

structure Bridge (τ : Type) where
  node : Node τ
  /-- What has become of each client. -/
  connections : ClientId → Connection
  /-- The clients that have been started and not stopped. -/
  clients : Finset ClientId
  /-- The next client to be accepted. -/
  next : ClientId
  /-- `acceptor.is_open()` -/
  listening : Bool

/-- How an `async_accept` ends. -/
inductive Accepted
  | connected
  /-- The peer has gone again before the constructor of `Client` asks for its endpoint. -/
  | gone
  /-- Any error code. -/
  | failed
  deriving DecidableEq

inductive BridgeEvent (μ : Type)
  | accept (outcome : Accepted)
  | read (client : ClientId) (outcome : Outcome Bytes)
  | written (client : ClientId) (outcome : Outcome Unit)
  /-- The node's thread carries out the actions. -/
  | drain
  /-- `handle_message` takes a message from the subscription of a topic. -/
  | message (topic : Bytes) (msg : μ)
  /-- `Server::stop` -/
  | signal
  deriving DecidableEq

namespace Bridge

variable {τ μ : Type} (ros : Ros τ μ)

def start : Bridge τ := ⟨.new, fun _ => .start, ∅, 0, true⟩

/-- `end_accept`.  For a peer that has gone `socket.remote_endpoint()` throws, and the exception leaves
`io.run()`. -/
def endAccept (s : Bridge τ) (outcome : Accepted) : Reply (Bridge τ) (RosMessage τ μ) Fault :=
  if s.listening then
    match outcome with
    | .connected => .done { s with clients := insert s.next s.clients, next := s.next + 1 } []
    | .gone => .halt s [] .uncaught
    | .failed => .done s []
  else .done s []

/-- What a client asks for. -/
def obey (s : Bridge τ) (client : ClientId) : Effect → Bridge τ × List (RosMessage τ μ)
  | .request (.addSubscriber topic type) =>
      ({ s with node := s.node.addSubscriber ros topic type client }, [])
  | .request (.addPublisher topic type) =>
      ({ s with node := s.node.addPublisher ros topic type client }, [])
  | .request (.publish topic message) => (s, s.node.publish ros topic message)
  | .stop => ({ s with clients := s.clients.erase client }, [])
  | .remove => ({ s with node := s.node.remove client }, [])
  | .asyncReadSome => (s, [])
  | .asyncWrite _ => (s, [])
  | .discard => (s, [])

def obeyAll (s : Bridge τ) (client : ClientId) : List Effect → Bridge τ × List (RosMessage τ μ)
  | [] => (s, [])
  | e :: es =>
      let first := s.obey ros client e
      let rest := obeyAll first.1 client es
      (rest.1, first.2 ++ rest.2)

/-- An operation on the socket of a client has ended. -/
def complete (s : Bridge τ) (client : ClientId) (e : ConnectionEvent) :
    Reply (Bridge τ) (RosMessage τ μ) Fault :=
  if client < s.next then
    let reply := connection.step (s.connections client) e
    match reply.stop with
    | some fault => .halt s [] fault
    | none =>
        let moved := { s with connections := Function.update s.connections client reply.state }
        let obeyed := moved.obeyAll ros client reply.outputs
        .done obeyed.1 obeyed.2
  else .done s []

/-- The message goes to every client of the subscription. -/
def handleMessage (s : Bridge τ) (topic : Bytes) (msg : μ) : Reply (Bridge τ) (RosMessage τ μ) Fault :=
  let e := ConnectionEvent.publish topic (ros.serialize msg)
  let clients := s.node.subscribers.members topic
  if ∀ c ∈ clients, (connection.step (s.connections c) e).stop = none then
    .done { s with connections := fun c =>
      if c ∈ clients then (connection.step (s.connections c) e).state else s.connections c } []
  else .halt s [] .overlap

def step (s : Bridge τ) : BridgeEvent μ → Reply (Bridge τ) (RosMessage τ μ) Fault
  | .accept outcome => s.endAccept outcome
  | .read client outcome => s.complete ros client (.read outcome)
  | .written client outcome => s.complete ros client (.written outcome)
  | .drain => .done { s with node := s.node.drain ros } []
  | .message topic msg => s.handleMessage ros topic msg
  | .signal => .done { s with clients := ∅, listening := false } []

/-! ### What a step does -/

/-- The action that an effect of a client enters into the queue. -/
def action? (client : ClientId) : Effect → Option (Action τ)
  | .request (.addSubscriber topic type) => (ros.get type).map fun t => .join topic t client
  | .remove => some (.leave client)
  | _ => none

/-- Accepting a client touches neither the node nor the clients that are there. -/
theorem endAccept_spec (s : Bridge τ) (outcome : Accepted) :
    (s.endAccept outcome : Reply (Bridge τ) (RosMessage τ μ) Fault).state.node = s.node ∧
      (s.endAccept outcome : Reply (Bridge τ) (RosMessage τ μ) Fault).state.connections =
        s.connections ∧
      s.next ≤ (s.endAccept outcome : Reply (Bridge τ) (RosMessage τ μ) Fault).state.next ∧
      (s.endAccept outcome : Reply (Bridge τ) (RosMessage τ μ) Fault).outputs = [] := by
  unfold endAccept
  split_ifs
  · cases outcome with
    | connected => exact ⟨rfl, rfl, Nat.le_succ _, rfl⟩
    | gone => exact ⟨rfl, rfl, Nat.le_refl _, rfl⟩
    | failed => exact ⟨rfl, rfl, Nat.le_refl _, rfl⟩
  · exact ⟨rfl, rfl, Nat.le_refl _, rfl⟩

theorem obey_spec (s : Bridge τ) (client : ClientId) (e : Effect) :
    (s.obey ros client e).1.connections = s.connections ∧ (s.obey ros client e).1.next = s.next ∧
      (s.obey ros client e).1.node.subscribers = s.node.subscribers ∧
      (s.obey ros client e).1.node.actions =
        s.node.actions ++ ([e].filterMap (action? ros client) : List (Action τ)) := by
  cases e with
  | request r =>
      cases r with
      | addSubscriber topic type =>
          cases h : ros.get type <;> simp [obey, Node.addSubscriber, action?, h]
      | addPublisher topic type =>
          cases ht : s.node.publishers.tag topic with
          | some t => simp [obey, Node.addPublisher, action?, ht]
          | none => cases h : ros.get type <;> simp [obey, Node.addPublisher, action?, ht, h]
      | publish topic message => simp [obey, action?]
  | remove => exact ⟨rfl, rfl, rfl, rfl⟩
  | stop => exact ⟨rfl, rfl, rfl, (List.append_nil _).symm⟩
  | asyncReadSome => exact ⟨rfl, rfl, rfl, (List.append_nil _).symm⟩
  | asyncWrite data => exact ⟨rfl, rfl, rfl, (List.append_nil _).symm⟩
  | discard => exact ⟨rfl, rfl, rfl, (List.append_nil _).symm⟩

theorem obeyAll_spec (s : Bridge τ) (client : ClientId) (es : List Effect) :
    (s.obeyAll ros client es).1.connections = s.connections ∧
      (s.obeyAll ros client es).1.next = s.next ∧
      (s.obeyAll ros client es).1.node.subscribers = s.node.subscribers ∧
      (s.obeyAll ros client es).1.node.actions =
        s.node.actions ++ es.filterMap (action? ros client) := by
  induction es generalizing s with
  | nil => exact ⟨rfl, rfl, rfl, (List.append_nil _).symm⟩
  | cons e es ih =>
      obtain ⟨hc, hn, hs, ha⟩ := s.obey_spec ros client e
      obtain ⟨hc', hn', hs', ha'⟩ := ih (s.obey ros client e).1
      refine ⟨hc'.trans hc, hn'.trans hn, hs'.trans hs, ?_⟩
      rw [obeyAll, ha', ha, List.append_assoc, ← List.filterMap_append, List.singleton_append]

/-- An end of an operation that the client survives. -/
theorem complete_done {s : Bridge τ} {client : ClientId} {e : ConnectionEvent} (hnext : client < s.next)
    (h : (connection.step (s.connections client) e).stop = none) :
    (s.complete ros client e).stop = none ∧
      (s.complete ros client e).state.connections = Function.update s.connections client
        (connection.step (s.connections client) e).state ∧
      (s.complete ros client e).state.next = s.next ∧
      (s.complete ros client e).state.node.subscribers = s.node.subscribers ∧
      (s.complete ros client e).state.node.actions = s.node.actions ++
        (connection.step (s.connections client) e).outputs.filterMap (action? ros client) := by
  rw [complete, if_pos hnext]
  simp only [h]
  exact ⟨rfl, obeyAll_spec ros _ _ _⟩

theorem complete_of_step {s : Bridge τ} {client : ClientId} {e : ConnectionEvent} {c : Connection}
    {out : List Effect} (hnext : client < s.next)
    (h : connection.step (s.connections client) e = .done c out) :
    (s.complete ros client e).state.connections client = c ∧
      (s.complete ros client e).state.next = s.next ∧
      (s.complete ros client e).state.node.subscribers = s.node.subscribers ∧
      (s.complete ros client e).state.node.actions =
        s.node.actions ++ out.filterMap (action? ros client) := by
  obtain ⟨-, hconnections, hrest⟩ := complete_done ros hnext (by rw [h]; rfl)
  rw [h] at hconnections hrest
  refine ⟨?_, hrest⟩
  rw [hconnections, Function.update_self]
  rfl

theorem complete_fault {s : Bridge τ} {client : ClientId} {e : ConnectionEvent} {fault : Fault}
    (hnext : client < s.next) (h : (connection.step (s.connections client) e).stop = some fault) :
    s.complete ros client e = .halt s [] fault := by
  rw [complete, if_pos hnext]
  simp only [h]

theorem complete_unknown {s : Bridge τ} {client : ClientId} (e : ConnectionEvent)
    (hnext : ¬ client < s.next) : s.complete ros client e = .done s [] := if_neg hnext

/-- When an operation has ended and the bridge goes on, the client is unknown or it goes on too. -/
theorem complete_cases {s : Bridge τ} {client : ClientId} {e : ConnectionEvent}
    (hstop : (s.complete ros client e).stop = none) :
    (¬ client < s.next ∧ s.complete ros client e = .done s []) ∨
      (client < s.next ∧ (connection.step (s.connections client) e).stop = none) := by
  by_cases hnext : client < s.next
  · refine .inr ⟨hnext, ?_⟩
    cases h : (connection.step (s.connections client) e).stop with
    | none => rfl
    | some fault =>
        rw [complete_fault ros hnext h] at hstop
        cases hstop
  · exact .inl ⟨hnext, complete_unknown ros e hnext⟩

theorem handleMessage_done {s : Bridge τ} {topic : Bytes} {msg : μ}
    (h : (s.handleMessage ros topic msg).stop = none) :
    (∀ c ∈ s.node.subscribers.members topic,
      (connection.step (s.connections c) (.publish topic (ros.serialize msg))).stop = none) ∧
    (s.handleMessage ros topic msg).state.node = s.node ∧
    (s.handleMessage ros topic msg).state.next = s.next ∧
    ∀ c, (s.handleMessage ros topic msg).state.connections c =
      if c ∈ s.node.subscribers.members topic then
        (connection.step (s.connections c) (.publish topic (ros.serialize msg))).state
      else s.connections c := by
  rw [handleMessage] at h ⊢
  split_ifs at h ⊢ with hall
  · exact ⟨hall, rfl, rfl, fun _ => rfl⟩
  · cases h

end Bridge

def bridge {τ μ : Type} (ros : Ros τ μ) : Machine (Bridge τ) (BridgeEvent μ) (RosMessage τ μ) Fault :=
  ⟨.start, Bridge.step ros⟩

end HitchOpen.LgsvlBridge
