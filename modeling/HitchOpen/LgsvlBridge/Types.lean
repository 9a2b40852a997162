import Mathlib.Data.List.SplitLengths
import Mathlib.Data.PNat.Defs
import HitchOpen.Library.Cursor
import HitchOpen.LgsvlBridge.Client

/-!
# Messages as bytes

`Serialize` and `Unserialize` in `types.cc` go through the members of a message as the introspection data
of its type lists them.  A primitive is copied as it lies in memory, so that a primitive is its bytes here;
the memory is taken to be little-endian, as the frames are.  A text is its length and its bytes, an array
its count and its elements, and a nested message is its members.

What `rosidl` does is a parameter: the message that `init` makes, and whether there is memory for a text
or for the elements of an array.

Three things are left out: what a `bool` is whose byte is neither 0 nor 1, bounded sequences (the code does
not look at `is_upper_bound_`, and takes them for arrays of constant size), and the size of a
`MessageType`, which only `malloc` needs.
-/

namespace HitchOpen.LgsvlBridge

open HitchOpen.Runtime LittleEndian

/-! ### Messages -/

inductive Primitive
  | float
  | double
  | boolean
  | uint8
  | int8
  | uint16
  | int16
  | uint32
  | int32
  | uint64
  | int64
  deriving DecidableEq

/-- `sizeof` -/
def Primitive.size : Primitive → ℕ
  | float => 4
  | double => 8
  | boolean => 1
  | uint8 => 1
  | int8 => 1
  | uint16 => 2
  | int16 => 2
  | uint32 => 4
  | int32 => 4
  | uint64 => 8
  | int64 => 8

abbrev Primitive.Memory (p : Primitive) : Type := Fin p.size → UInt8

/-- `is_array_` and `array_size_`: a sequence is an array of size 0. -/
inductive Shape
  | single
  | sequence
  | array (size : ℕ+)
  deriving DecidableEq

/-- What a member of this shape holds. -/
abbrev Shape.Of (α : Type) : Shape → Type
  | single => α
  | sequence => List α
  | array size => Fin size → α

/-- The elements, of which a member that is no array has one. -/
def Shape.elements {α : Type} : (sh : Shape) → sh.Of α → List α
  | single, x => [x]
  | sequence, xs => xs
  | array _, xs => List.ofFn xs

/-- The members of a message type, each with its name.  The types of the last kind are the ones that
`types.cc` does not support. -/
inductive MessageMembers
  | nil
  | primitive (name : String) (type : Primitive) (shape : Shape) (rest : MessageMembers)
  | string (name : String) (shape : Shape) (rest : MessageMembers)
  | message (name : String) (members : MessageMembers) (shape : Shape) (rest : MessageMembers)
  | unsupported (name : String) (typeId : ℕ) (shape : Shape) (rest : MessageMembers)
  deriving DecidableEq

namespace MessageMembers

/-- A message of the type; nothing is known of what its unsupported members hold. -/
def Value : MessageMembers → Type
  | nil => Unit
  | primitive _ p sh rest => sh.Of p.Memory × Value rest
  | string _ sh rest => sh.Of Bytes × Value rest
  | message _ members sh rest => sh.Of (Value members) × Value rest
  | unsupported _ _ _ rest => Value rest

/-- The names of the members, those of nested messages among them. -/
def names : MessageMembers → List String
  | nil => []
  | primitive name _ _ rest => name :: names rest
  | string name _ rest => name :: names rest
  | message name members _ rest => name :: (names members ++ names rest)
  | unsupported name _ _ rest => name :: names rest

end MessageMembers

structure Rosidl where
  /-- What `init` makes of a message. -/
  init : (info : MessageMembers) → info.Value
  /-- There is memory for a text of this length. -/
  assignn : ℕ → Bool
  /-- There is memory for so many primitives, texts or messages. -/
  sequenceInit : Primitive → ℕ → Bool
  stringSequenceInit : ℕ → Bool
  resize : MessageMembers → ℕ → Bool

/-! ### Writing -/

/-- What a `uint32_t` keeps of a number. -/
def toUint32 (n : ℕ) : ℕ := n % 2 ^ 32

/-- `SER_SIMPLE` -/
def serSimple {p : Primitive} (var : p.Memory) (data : Bytes) : Bytes := data ++ List.ofFn var

def serUint32 (n : ℕ) (data : Bytes) : Bytes := data ++ bytes 4 n

/-- `SER_STRING` -/
def serString (str data : Bytes) : Bytes :=
  let length := toUint32 str.length
  serUint32 length data ++ str.take length

/-- `SER_SIMPLE_ARR_CASE` -/
def serSimpleArr {p : Primitive} (arr : List p.Memory) (data : Bytes) : Bytes :=
  let arrcount := toUint32 arr.length
  let byteCount := toUint32 (arrcount * p.size)
  serUint32 arrcount data ++ (arr.flatMap List.ofFn).take byteCount

/-- An array of texts or of messages. -/
def serArr {α : Type} (ser : α → Bytes → Bytes) (arr : List α) (data : Bytes) : Bytes :=
  let count := toUint32 arr.length
  (arr.take count).foldl (fun data x => ser x data) (serUint32 count data)

def serPrimitive {p : Primitive} : (sh : Shape) → sh.Of p.Memory → Bytes → Bytes
  | .single, x, data => serSimple x data
  | .sequence, xs, data => serSimpleArr xs data
  | .array _, xs, data => serSimpleArr (List.ofFn xs) data

def serMember {α : Type} (ser : α → Bytes → Bytes) : (sh : Shape) → sh.Of α → Bytes → Bytes
  | .single, x, data => ser x data
  | .sequence, xs, data => serArr ser xs data
  | .array _, xs, data => serArr ser (List.ofFn xs) data

/-- `Serialize` appends to `data`.  It ends at an unsupported member, but where a nested message ends there
the message around it goes on. -/
def serialize : (info : MessageMembers) → info.Value → Bytes → Bytes
  | .nil, _, data => data
  | .primitive _ _ sh rest, (x, msg), data => serialize rest msg (serPrimitive sh x data)
  | .string _ sh rest, (x, msg), data => serialize rest msg (serMember serString sh x data)
  | .message _ members sh rest, (x, msg), data =>
      serialize rest msg (serMember (serialize members) sh x data)
  | .unsupported _ _ _ _, _, data => data

/-! ### Reading -/

/-- What the log says when a message is not read, and of which member. -/
inductive Rejection
  | notEnoughData (member : String) (need offset size : ℕ)
  | incorrectCount (member : String) (expected got : ℕ)
  | assignString (member : String)
  | allocatePrimitives (member : String) (count : ℕ)
  | allocateStrings (member : String) (count : ℕ)
  | allocateMessages (member : String) (count : ℕ)
  | unsupportedType (typeId : ℕ) (member : String)
  deriving DecidableEq

def Rejection.member : Rejection → String
  | notEnoughData member _ _ _ => member
  | incorrectCount member _ _ => member
  | assignString member => member
  | allocatePrimitives member _ => member
  | allocateStrings member _ => member
  | allocateMessages member _ => member
  | unsupportedType _ member => member

inductive Failure
  | undefined (u : Undefined)
  | rejected (r : Rejection)
  deriving DecidableEq

namespace Reader

abbrev Reading (α : Type) : Type := Cursor.Reader Failure α

/-- `UNS_CHECK_SIZE` -/
def checkSize (data : Bytes) (member : String) (need : ℕ) : Reading Unit := fun offset =>
  if offset + need > data.length then
    .error (.rejected (.notEnoughData member need offset data.length))
  else .ok ((), offset)

/-- So many bytes from `&data[offset]` on. -/
def copy (data : Bytes) (n : ℕ) : Reading Bytes := fun offset =>
  if offset + n > data.length then .error (.undefined .outOfRange)
  else .ok ((data.drop offset).take n, offset + n)

/-- `UNS_SIMPLE` -/
def simple (data : Bytes) (member : String) (size : ℕ) : Reading Bytes := do
  checkSize data member size
  copy data size

def uint32 (data : Bytes) (member : String) : Reading ℕ := do
  let var ← simple data member 4
  return value var

/-- So many bytes copied to memory of their own, when there is enough of it. -/
def allocated (data : Bytes) (member : String) (size : ℕ) (enough : Bool) (failed : Rejection) :
    Reading Bytes := do
  checkSize data member size
  if enough then copy data size else throw (.rejected failed)

/-- `UNS_STRING` -/
def readString (rosidl : Rosidl) (data : Bytes) (member : String) : Reading Bytes := do
  let length ← uint32 data member
  allocated data member length (rosidl.assignn length) (.assignString member)

/-- The count of an array of constant size. -/
def readCount (data : Bytes) (member : String) (size : ℕ+) : Reading ℕ := do
  let count ← uint32 data member
  if count ≠ 0 ∧ count ≠ size then throw (.rejected (.incorrectCount member size count))
  else return count

/-- The bytes as a primitive. -/
def memory {p : Primitive} (bs : Bytes) : p.Memory := fun i => bs.getD i 0

/-- The primitives that lie one behind the other in a block of memory. -/
def memories {p : Primitive} (count : ℕ) (block : Bytes) : List p.Memory :=
  ((List.replicate count p.size).splitLengths block).map memory

/-- `UNS_SIMPLE_CASE` and `UNS_SIMPLE_ARR_CASE`: in an array of constant size the elements that do not come
are set to zero. -/
def readPrimitive (rosidl : Rosidl) (data : Bytes) (member : String) (p : Primitive) :
    (sh : Shape) → Reading (sh.Of p.Memory)
  | .single => do
      let var ← simple data member p.size
      return memory var
  | .sequence => do
      let count ← uint32 data member
      let block ← allocated data member (count * p.size) (rosidl.sequenceInit p count)
        (.allocatePrimitives member count)
      return memories count block
  | .array size => do
      let count ← readCount data member size
      let block ← simple data member (count * p.size)
      return fun i => (memories count block).getD i fun _ => 0

/-- A text or a message, or an array of them.  In an array of constant size the elements that do not come
stay as they are. -/
def readMember {α : Type} (data : Bytes) (member : String) (allocate : ℕ → Bool)
    (failed : String → ℕ → Rejection) (fresh : α) (read : α → Reading α) :
    (sh : Shape) → sh.Of α → Reading (sh.Of α)
  | .single, x => read x
  | .sequence, _ => do
      let count ← uint32 data member
      if allocate count then (List.replicate count fresh).mapM read
      else throw (.rejected (failed member count))
  | .array size, xs => do
      let count ← readCount data member size
      let elements ← ((List.ofFn xs).take count).mapM read
      return fun i => elements.getD i (xs i)

/-- The count, which is read before it turns out that the type is not supported. -/
def readUnsupported (data : Bytes) (member : String) : Shape → Reading ℕ
  | .single => return 0
  | .sequence => uint32 data member
  | .array size => readCount data member size

/-- `read`: the message as it is, member by member overwritten with what is read. -/
def read (rosidl : Rosidl) (data : Bytes) : (info : MessageMembers) → info.Value → Reading info.Value
  | .nil, _ => return ()
  | .primitive member p sh rest, (_, msg) => do
      let x ← readPrimitive rosidl data member p sh
      let others ← read rosidl data rest msg
      return (x, others)
  | .string member sh rest, (str, msg) => do
      let x ← readMember data member rosidl.stringSequenceInit .allocateStrings []
        (fun _ => readString rosidl data member) sh str
      let others ← read rosidl data rest msg
      return (x, others)
  | .message member members sh rest, (inner, msg) => do
      let x ← readMember data member (rosidl.resize members) .allocateMessages (rosidl.init members)
        (read rosidl data members) sh inner
      let others ← read rosidl data rest msg
      return (x, others)
  | .unsupported member typeId sh _, _ => do
      let _ ← readUnsupported data member sh
      throw (.rejected (.unsupportedType typeId member))

end Reader

/-- `Unserialize` of a message that has been initialised: the message, and how much was used for it.  What
is left over is only reported. -/
def unserialize (rosidl : Rosidl) (info : MessageMembers) (data : Bytes) : Except Failure (info.Value × ℕ) :=
  (Reader.read rosidl data info (rosidl.init info)).run 0

end HitchOpen.LgsvlBridge
