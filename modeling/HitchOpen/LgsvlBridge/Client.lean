import HitchOpen.Common.Runtime
import HitchOpen.Library.ChunkedStream
import HitchOpen.Library.LittleEndian

/-!
# A connection of the simulator bridge

`Client` in `client.cc` has a buffer for what it reads from its socket and two for what it writes.  A
request is an operation byte, a topic behind its length and a second text behind its length: the name of
a type, or a message.  Topics and types are the bytes of a `std::string`.

What the handlers ask of the socket, of the set of clients and of the node is data here, in the order in
which they ask it.
-/

namespace HitchOpen.LgsvlBridge

open HitchOpen.Runtime ChunkedStream

abbrev Bytes := List UInt8

/-! ### Requests -/

def opAddSubscriber : UInt8 := 1
def opAddPublisher : UInt8 := 2
def opPublish : UInt8 := 3

/-- A call of the node that a request leads to. -/
inductive Request
  | addSubscriber (topic type : Bytes)
  | addPublisher (topic type : Bytes)
  | publish (topic message : Bytes)
  deriving DecidableEq

def get32le (buffer : Bytes) (offset : ℕ) : Except Undefined ℕ := do
  let b0 ← vectorAt buffer (offset + 0)
  let b1 ← vectorAt buffer (offset + 1)
  let b2 ← vectorAt buffer (offset + 2)
  let b3 ← vectorAt buffer (offset + 3)
  return b0.toNat ||| b1.toNat <<< 8 ||| b2.toNat <<< 16 ||| b3.toNat <<< 24

/-- The part that the three handlers share: the request and what is left of the buffer, or nothing when
more of the request has to arrive.  The check of the header counts on an empty topic.  The address just
past the end that is taken for an empty text there is not counted as a read. -/
def handleRequest (make : Bytes → Bytes → Request) (buffer : Bytes) :
    Except Undefined (Option (Request × Bytes)) :=
  if 1 + 2 * 4 > buffer.length then return none
  else do
    let offset := 1
    let topicLength ← get32le buffer offset
    let offset := offset + 4
    if offset + topicLength > buffer.length then return none
    else
      let topic := (buffer.drop offset).take topicLength
      let offset := offset + topicLength
      let length ← get32le buffer offset
      let offset := offset + 4
      if offset + length > buffer.length then return none
      else
        let text := (buffer.drop offset).take length
        return some (make topic text, buffer.drop (offset + length))

def handleAddSubscriber : Bytes → Except Undefined (Option (Request × Bytes)) :=
  handleRequest .addSubscriber

def handleAddPublisher : Bytes → Except Undefined (Option (Request × Bytes)) :=
  handleRequest .addPublisher

def handlePublish : Bytes → Except Undefined (Option (Request × Bytes)) := handleRequest .publish

/-- The handler that an operation byte chooses. -/
def handler (op : UInt8) : Option (Bytes → Except Undefined (Option (Request × Bytes))) :=
  if op = opAddSubscriber then some handleAddSubscriber
  else if op = opAddPublisher then some handleAddPublisher
  else if op = opPublish then some handlePublish
  else none

/-- The loop of `handle_read`: the requests that it handled, the buffer that it leaves, and whether it
met an unknown operation.  Every round but the last shortens the buffer. -/
def readLoop : ℕ → Bytes → Except Undefined (Found UInt8 Request)
  | 0, _ => .error .diverges
  | _ + 1, [] => .ok ⟨[], [], false⟩
  | fuel + 1, op :: rest =>
      match handler op with
      | none => .ok ⟨[], op :: rest, true⟩
      | some handle =>
          (handle (op :: rest)).bind fun
            | none => .ok ⟨[], op :: rest, false⟩
            | some (request, buffer) => (readLoop fuel buffer).map (·.push request)

/-! ### The client -/

/-- `MAX_PENDING_SIZE` -/
def maxPendingSize : ℕ := 1073741824

structure Client where
  buffer : Bytes
  writing : Bytes
  pending : Bytes
  deriving DecidableEq

/-- As it is constructed. -/
def Client.new : Client := ⟨[], [], []⟩

/-- How an operation on the socket has ended. -/
inductive Outcome (α : Type)
  | success (a : α)
  | eof
  | aborted
  /-- Any other error code. -/
  | failed
  deriving DecidableEq

/-- What a handler of the client asks for. -/
inductive Effect
  /-- `start` -/
  | asyncReadSome
  | asyncWrite (data : Bytes)
  | request (r : Request)
  /-- `clients.stop`, which closes the socket -/
  | stop
  /-- `node.remove` -/
  | remove
  /-- A message is discarded and the log says so. -/
  | discard
  deriving DecidableEq

namespace Client

/-- `handle_read` -/
def handleRead (c : Client) : Outcome Bytes → Except Undefined (Client × List Effect)
  | .success data =>
      (readLoop ((c.buffer ++ data).length + 1) (c.buffer ++ data)).map fun found =>
        ({ c with buffer := found.rest },
          found.items.map .request ++ [if found.rejected then .stop else .asyncReadSome])
  | .eof => .ok (c, [.stop, .remove])
  | .aborted => .ok (c, [])
  | .failed => .ok (c, [.stop, .remove])

/-- `handle_write` -/
def handleWrite (c : Client) : Outcome Unit → Client × List Effect
  | .success _ =>
      if c.pending ≠ [] then ({ c with writing := c.pending, pending := [] }, [.asyncWrite c.pending])
      else ({ c with writing := [] }, [])
  | .aborted => (c, [])
  | .eof => (c, [.stop, .remove])
  | .failed => (c, [.stop, .remove])

/-- The four bytes that `fill_data` pushes for a size. -/
def sizeBytes (n : ℕ) : Bytes :=
  [UInt8.ofNat (n >>> 0), UInt8.ofNat (n >>> 8), UInt8.ofNat (n >>> 16), UInt8.ofNat (n >>> 24)]

def fillData (data topic msg : Bytes) : Bytes :=
  data ++ [opPublish] ++ sizeBytes topic.length ++ topic ++ sizeBytes msg.length ++ msg

def publish (c : Client) (topic msg : Bytes) : Client × List Effect :=
  if c.writing = [] then
    ({ c with writing := fillData c.writing topic msg }, [.asyncWrite (fillData c.writing topic msg)])
  else if c.pending.length < maxPendingSize then ({ c with pending := fillData c.pending topic msg }, [])
  else (c, [.discard])

end Client

end HitchOpen.LgsvlBridge
