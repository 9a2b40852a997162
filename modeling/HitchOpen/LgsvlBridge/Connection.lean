import HitchOpen.Library.EventMachine
import HitchOpen.LgsvlBridge.Requests

/-!
# A client and its socket

The reads and writes of a client end in any order with each other and with the messages that the node
publishes to it.  Here the client and its socket make one machine: an operation that the client starts is
outstanding until the event that ends it, and starting a second one of the same kind before that is a
fault.  An event for which nothing is outstanding does not happen.

`received` and `sent` are the bytes of the reads and writes that have succeeded; what a failing write may
have got through is not known.  A closed socket goes on ending what is outstanding.
-/

namespace HitchOpen.LgsvlBridge

open HitchOpen.Runtime EventMachine ChunkedStream

structure Socket where
  /-- An `async_read_some` is outstanding. -/
  reading : Bool
  /-- The data of the outstanding `async_write`. -/
  inFlight : Option Bytes
  received : Bytes
  sent : Bytes
  deriving DecidableEq

structure Connection where
  client : Client
  socket : Socket
  deriving DecidableEq

inductive Fault
  | undefined (u : Undefined)
  /-- A second operation of one kind on the socket. -/
  | overlap
  /-- An exception that nobody catches. -/
  | uncaught
  deriving DecidableEq

inductive ConnectionEvent
  | read (outcome : Outcome Bytes)
  | written (outcome : Outcome Unit)
  | publish (topic msg : Bytes)
  deriving DecidableEq

/-- What the socket does about an effect. -/
def Socket.perform (s : Socket) : Effect → Except Fault Socket
  | .asyncReadSome => if s.reading then .error .overlap else .ok { s with reading := true }
  | .asyncWrite data =>
      if s.inFlight.isSome then .error .overlap else .ok { s with inFlight := some data }
  | _ => .ok s

def Outcome.data : Outcome Bytes → Bytes
  | .success data => data
  | _ => []

namespace Connection

/-- `Clients::start` has started the first read. -/
def start : Connection := ⟨.new, ⟨true, none, [], []⟩⟩

/-- The client has got as far as `c`, and asks for `effects`. -/
def answer (c : Client) (s : Socket) (effects : List Effect) : Reply Connection Effect Fault :=
  match effects.foldlM Socket.perform s with
  | .ok socket => .done ⟨c, socket⟩ effects
  | .error fault => .halt ⟨c, s⟩ effects fault

def read (s : Connection) (outcome : Outcome Bytes) : Reply Connection Effect Fault :=
  match s.client.handleRead outcome with
  | .error u => .halt s [] (.undefined u)
  | .ok (c, effects) =>
      answer c { s.socket with reading := false, received := s.socket.received ++ outcome.data } effects

def written (s : Connection) (data : Bytes) (outcome : Outcome Unit) : Reply Connection Effect Fault :=
  answer (s.client.handleWrite outcome).1
    { s.socket with
      inFlight := none
      sent := if outcome = .success () then s.socket.sent ++ data else s.socket.sent }
    (s.client.handleWrite outcome).2

def step (s : Connection) : ConnectionEvent → Reply Connection Effect Fault
  | .read outcome => if s.socket.reading then s.read outcome else .done s []
  | .written outcome =>
      match s.socket.inFlight with
      | some data => s.written data outcome
      | none => .done s []
  | .publish topic msg =>
      answer (s.client.publish topic msg).1 s.socket (s.client.publish topic msg).2

end Connection

/-- A client from its acceptance on. -/
def connection : Machine Connection ConnectionEvent Effect Fault := ⟨.start, Connection.step⟩

namespace Connection

/-! ### What a step does -/

section Answer

variable (c : Client) (s : Socket)

@[simp] theorem answer_nil : answer c s [] = .done ⟨c, s⟩ [] := rfl

@[simp] theorem answer_give_up : answer c s [.stop, .remove] = .done ⟨c, s⟩ [.stop, .remove] := rfl

@[simp] theorem answer_discard : answer c s [.discard] = .done ⟨c, s⟩ [.discard] := rfl

theorem answer_write {s : Socket} (data : Bytes) (h : s.inFlight = none) :
    answer c s [.asyncWrite data] = .done ⟨c, { s with inFlight := some data }⟩ [.asyncWrite data] := by
  rw [answer, List.foldlM_cons, Socket.perform, h]
  rfl

theorem answer_overlap {s : Socket} {d : Bytes} (data : Bytes) (h : s.inFlight = some d) :
    answer c s [.asyncWrite data] = .halt ⟨c, s⟩ [.asyncWrite data] .overlap := by
  rw [answer, List.foldlM_cons, Socket.perform, h]
  rfl

end Answer

theorem perform_requests (s : Socket) (rs : List Request) (effects : List Effect) :
    (rs.map Effect.request ++ effects).foldlM Socket.perform s = effects.foldlM Socket.perform s := by
  induction rs with
  | nil => rfl
  | cons r rs ih => exact ih

/-- The requests that are complete now. -/
def found (s : Connection) (data : Bytes) : Found UInt8 Request := requests (s.client.buffer ++ data)

/-- The client has read `data` and handled what it could. -/
def afterRead (s : Connection) (data : Bytes) : Connection where
  client := { s.client with buffer := (s.found data).rest }
  socket := { s.socket with reading := !(s.found data).rejected, received := s.socket.received ++ data }

theorem step_read_success {s : Connection} {data : Bytes} (hreading : s.socket.reading = true)
    (h : ¬ Overruns (s.found data)) :
    step s (.read (.success data)) = .done (s.afterRead data)
      ((s.found data).items.map .request ++
        [if (s.found data).rejected then .stop else .asyncReadSome]) := by
  have hloop : readLoop ((s.client.buffer ++ data).length + 1) (s.client.buffer ++ data) =
      .ok (s.found data) := by
    rw [readLoop_eq (Nat.lt_succ_self _)]
    exact if_neg h
  rw [step, if_pos hreading, read, Client.handleRead, hloop]
  show answer _ _ _ = _
  rw [answer, perform_requests, afterRead]
  cases (s.found data).rejected <;> rfl

theorem step_read_overrun {s : Connection} {data : Bytes} (hreading : s.socket.reading = true)
    (h : Overruns (s.found data)) :
    step s (.read (.success data)) = .halt s [] (.undefined .outOfRange) := by
  have hloop : readLoop ((s.client.buffer ++ data).length + 1) (s.client.buffer ++ data) =
      .error .outOfRange := by
    rw [readLoop_eq (Nat.lt_succ_self _)]
    exact if_pos h
  rw [step, if_pos hreading, read, Client.handleRead, hloop]
  rfl

/-- A read that brings no data is the last one. -/
theorem step_read_ended {s : Connection} {outcome : Outcome Bytes} (hreading : s.socket.reading = true)
    (h : ∀ data, outcome ≠ .success data) :
    step s (.read outcome) = .done ⟨s.client, { s.socket with reading := false }⟩
      (if outcome = .aborted then [] else [.stop, .remove]) := by
  rw [step, if_pos hreading]
  cases outcome with
  | success data => exact absurd rfl (h data)
  | eof => simp [read, Client.handleRead, Outcome.data]
  | aborted => simp [read, Client.handleRead, Outcome.data]
  | failed => simp [read, Client.handleRead, Outcome.data]

theorem step_read_idle {s : Connection} (outcome : Outcome Bytes) (hreading : s.socket.reading = false) :
    step s (.read outcome) = .done s [] := by
  rw [step, hreading]
  rfl

theorem step_written_idle {s : Connection} (outcome : Outcome Unit) (h : s.socket.inFlight = none) :
    step s (.written outcome) = .done s [] := by
  rw [step, h]

/-- The data is out, and what has waited meanwhile follows it. -/
theorem step_written_success {s : Connection} {data : Bytes} (h : s.socket.inFlight = some data) :
    step s (.written (.success ())) = .done
      ⟨{ s.client with writing := s.client.pending, pending := [] },
        { s.socket with
          inFlight := if s.client.pending = [] then none else some s.client.pending
          sent := s.socket.sent ++ data }⟩
      (if s.client.pending = [] then [] else [.asyncWrite s.client.pending]) := by
  rw [step, h]
  show written s data (.success ()) = _
  rw [written, Client.handleWrite]
  by_cases hp : s.client.pending = []
  · simp [hp]
  · simp [hp, answer_write]

/-- A write that fails leaves its data in the buffer. -/
theorem step_written_failed {s : Connection} {data : Bytes} {outcome : Outcome Unit}
    (h : s.socket.inFlight = some data) (hfail : outcome ≠ .success ()) :
    step s (.written outcome) = .done ⟨s.client, { s.socket with inFlight := none }⟩
      (if outcome = .aborted then [] else [.stop, .remove]) := by
  rw [step, h]
  show written s data outcome = _
  cases outcome with
  | success u => exact absurd rfl hfail
  | eof => simp [written, Client.handleWrite]
  | aborted => simp [written, Client.handleWrite]
  | failed => simp [written, Client.handleWrite]

/-! ### Publishing -/

/-- A message on its own. -/
def frame (topic msg : Bytes) : Bytes := (Request.publish topic msg).encode

theorem sizeBytes_eq (n : ℕ) : Client.sizeBytes n = LittleEndian.bytes 4 n := by
  simp only [Client.sizeBytes, LittleEndian.bytes, Nat.shiftRight_eq_div_pow, Nat.div_div_eq_div_mul]
  norm_num

theorem fillData_eq (data topic msg : Bytes) :
    Client.fillData data topic msg = data ++ frame topic msg := by
  rw [Client.fillData, sizeBytes_eq, sizeBytes_eq]
  simp [frame, Request.encode, Request.op, Request.topic, Request.text, LittleEndian.counted]

theorem frame_ne_nil (topic msg : Bytes) : frame topic msg ≠ [] := List.cons_ne_nil _ _

theorem step_publish_idle {s : Connection} (topic msg : Bytes) (hwriting : s.client.writing = [])
    (h : s.socket.inFlight = none) :
    step s (.publish topic msg) = .done
      ⟨{ s.client with writing := frame topic msg },
        { s.socket with inFlight := some (frame topic msg) }⟩ [.asyncWrite (frame topic msg)] := by
  rw [step, Client.publish, if_pos hwriting, hwriting, fillData_eq]
  exact answer_write _ _ h

theorem step_publish_busy {s : Connection} (topic msg : Bytes) (hwriting : s.client.writing ≠ [])
    (h : s.client.pending.length < maxPendingSize) :
    step s (.publish topic msg) =
      .done ⟨{ s.client with pending := s.client.pending ++ frame topic msg }, s.socket⟩ [] := by
  rw [step, Client.publish, if_neg hwriting, if_pos h, fillData_eq]
  rfl

theorem step_publish_full {s : Connection} (topic msg : Bytes) (hwriting : s.client.writing ≠ [])
    (h : maxPendingSize ≤ s.client.pending.length) :
    step s (.publish topic msg) = .done s [.discard] := by
  rw [step, Client.publish, if_neg hwriting, if_neg (Nat.not_lt.mpr h)]
  rfl

/-! ### Everything a step can do -/

theorem read_cases (s : Connection) (outcome : Outcome Bytes) :
    (s.socket.reading = false ∧ step s (.read outcome) = .done s []) ∨
    (∃ data, s.socket.reading = true ∧ outcome = .success data ∧ Overruns (s.found data) ∧
      step s (.read outcome) = .halt s [] (.undefined .outOfRange)) ∨
    (∃ data, s.socket.reading = true ∧ outcome = .success data ∧ ¬ Overruns (s.found data) ∧
      step s (.read outcome) = .done (s.afterRead data) ((s.found data).items.map .request ++
        [if (s.found data).rejected then .stop else .asyncReadSome])) ∨
    (s.socket.reading = true ∧ (∀ data, outcome ≠ .success data) ∧
      step s (.read outcome) = .done ⟨s.client, { s.socket with reading := false }⟩
        (if outcome = .aborted then [] else [.stop, .remove])) := by
  cases hr : s.socket.reading with
  | false => exact .inl ⟨rfl, step_read_idle outcome hr⟩
  | true =>
      by_cases hdata : ∃ data, outcome = .success data
      · obtain ⟨data, rfl⟩ := hdata
        by_cases hover : Overruns (s.found data)
        · exact .inr (.inl ⟨data, rfl, rfl, hover, step_read_overrun hr hover⟩)
        · exact .inr (.inr (.inl ⟨data, rfl, rfl, hover, step_read_success hr hover⟩))
      · have hend : ∀ data, outcome ≠ .success data := fun data hd => hdata ⟨data, hd⟩
        exact .inr (.inr (.inr ⟨rfl, hend, step_read_ended hr hend⟩))

theorem written_cases (s : Connection) (outcome : Outcome Unit) :
    (s.socket.inFlight = none ∧ step s (.written outcome) = .done s []) ∨
    (∃ data, s.socket.inFlight = some data ∧ outcome = .success () ∧
      step s (.written outcome) = .done
        ⟨{ s.client with writing := s.client.pending, pending := [] },
          { s.socket with
            inFlight := if s.client.pending = [] then none else some s.client.pending
            sent := s.socket.sent ++ data }⟩
        (if s.client.pending = [] then [] else [.asyncWrite s.client.pending])) ∨
    (∃ data, s.socket.inFlight = some data ∧ outcome ≠ .success () ∧
      step s (.written outcome) = .done ⟨s.client, { s.socket with inFlight := none }⟩
        (if outcome = .aborted then [] else [.stop, .remove])) := by
  cases hf : s.socket.inFlight with
  | none => exact .inl ⟨rfl, step_written_idle outcome hf⟩
  | some data =>
      by_cases hok : outcome = .success ()
      · subst hok
        exact .inr (.inl ⟨data, rfl, rfl, step_written_success hf⟩)
      · exact .inr (.inr ⟨data, rfl, hok, step_written_failed hf hok⟩)

theorem publish_cases {s : Connection} {topic msg : Bytes}
    (hstop : (step s (.publish topic msg)).stop = none) :
    (s.client.writing = [] ∧ s.socket.inFlight = none ∧
      step s (.publish topic msg) = .done
        ⟨{ s.client with writing := frame topic msg },
          { s.socket with inFlight := some (frame topic msg) }⟩ [.asyncWrite (frame topic msg)]) ∨
    (s.client.writing ≠ [] ∧ s.client.pending.length < maxPendingSize ∧
      step s (.publish topic msg) =
        .done ⟨{ s.client with pending := s.client.pending ++ frame topic msg }, s.socket⟩ []) ∨
    (s.client.writing ≠ [] ∧ maxPendingSize ≤ s.client.pending.length ∧
      step s (.publish topic msg) = .done s [.discard]) := by
  by_cases hw : s.client.writing = []
  · cases hf : s.socket.inFlight with
    | none => exact .inl ⟨hw, rfl, step_publish_idle topic msg hw hf⟩
    | some data =>
        rw [step, Client.publish, if_pos hw, answer_overlap _ _ hf] at hstop
        cases hstop
  · by_cases hp : s.client.pending.length < maxPendingSize
    · exact .inr (.inl ⟨hw, hp, step_publish_busy topic msg hw hp⟩)
    · have hfull := Nat.le_of_not_lt hp
      exact .inr (.inr ⟨hw, hfull, step_publish_full topic msg hw hfull⟩)

end Connection

end HitchOpen.LgsvlBridge
