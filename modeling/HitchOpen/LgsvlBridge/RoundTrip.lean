import Mathlib.Data.List.GetD
import HitchOpen.LgsvlBridge.MessageCode

/-!
# Messages on their way through the wire

A message fits when its counts and lengths can be written in four bytes and `rosidl` finds memory for it.
What `Serialize` writes of such a message, `Unserialize` reads back, whatever follows it and whatever the
message was initialised to.

Counts and lengths that do not fit are written modulo `2 ^ 32`, and a message with an unsupported member
only up to that member.
-/

namespace HitchOpen.LgsvlBridge

open PrefixCode LittleEndian Cursor

theorem Primitive.size_pos (p : Primitive) : 0 < p.size := by
  cases p <;> decide

theorem toUint32_of_lt {n : ℕ} (h : n < 2 ^ 32) : toUint32 n = n := Nat.mod_eq_of_lt h

/-! ### Messages that fit -/

/-- The count can be written and there is memory for the elements, which have this width in the block that
they are copied from. -/
def Shape.Room {α : Type} (allocate : ℕ → Bool) (width : ℕ) : (sh : Shape) → sh.Of α → Prop
  | .single, _ => True
  | .sequence, xs => xs.length * width < 2 ^ 32 ∧ allocate xs.length
  | .array size, _ => size * width < 2 ^ 32

/-- What the reader can get back of what is written. -/
def Fits (rosidl : Rosidl) : (info : MessageMembers) → info.Value → Prop
  | .nil, _ => True
  | .primitive _ p sh rest, (x, msg) => sh.Room (rosidl.sequenceInit p) p.size x ∧ Fits rosidl rest msg
  | .string _ sh rest, (x, msg) =>
      (sh.Room rosidl.stringSequenceInit 1 x ∧
        ∀ str ∈ sh.elements x, str.length < 2 ^ 32 ∧ rosidl.assignn str.length) ∧ Fits rosidl rest msg
  | .message _ members sh rest, (x, msg) =>
      (sh.Room (rosidl.resize members) 1 x ∧ ∀ inner ∈ sh.elements x, Fits rosidl members inner) ∧
        Fits rosidl rest msg
  | .unsupported _ _ _ _, _ => False

/-! ### What is written -/

theorem serArr_append {α : Type} {ser : α → Bytes → Bytes} (h : ∀ x data, ser x data = data ++ ser x [])
    (arr : List α) (data : Bytes) :
    serArr ser arr data =
      data ++ bytes 4 arr.length ++ (arr.take (toUint32 arr.length)).flatMap fun x => ser x [] := by
  have hfold : ∀ (xs : List α) (data : Bytes), xs.foldl (fun data x => ser x data) data =
      data ++ xs.flatMap fun x => ser x [] := by
    intro xs
    induction xs with
    | nil => exact fun data => (List.append_nil data).symm
    | cons x xs ih =>
        intro data
        rw [List.foldl_cons, ih, h x data, List.flatMap_cons, List.append_assoc]
  have hcount : bytes 4 (toUint32 arr.length) = bytes 4 arr.length := bytes_mod 4 arr.length
  rw [serArr, serUint32, hfold, hcount]

theorem serString_append (str data : Bytes) : serString str data = data ++ serString str [] := by
  rw [serString, serString, serUint32, serUint32, List.nil_append, List.append_assoc]

theorem serPrimitive_append {p : Primitive} (sh : Shape) (x : sh.Of p.Memory) (data : Bytes) :
    serPrimitive sh x data = data ++ serPrimitive sh x [] := by
  have harr : ∀ arr : List p.Memory, serSimpleArr arr data = data ++ serSimpleArr arr [] := by
    intro arr
    rw [serSimpleArr, serSimpleArr, serUint32, serUint32, List.nil_append, List.append_assoc]
  cases sh with
  | single => rfl
  | sequence => exact harr x
  | array size => exact harr (List.ofFn x)

theorem serMember_append {α : Type} {ser : α → Bytes → Bytes} (h : ∀ x data, ser x data = data ++ ser x [])
    (sh : Shape) (x : sh.Of α) (data : Bytes) : serMember ser sh x data = data ++ serMember ser sh x [] := by
  have harr : ∀ arr : List α, serArr ser arr data = data ++ serArr ser arr [] := by
    intro arr
    rw [serArr_append h, serArr_append h, List.nil_append, List.append_assoc]
  cases sh with
  | single => exact h x data
  | sequence => exact harr x
  | array size => exact harr (List.ofFn x)

/-- What is written does not depend on what has been written before. -/
theorem serialize_append (info : MessageMembers) (msg : info.Value) (data : Bytes) :
    serialize info msg data = data ++ serialize info msg [] := by
  induction info generalizing data with
  | nil => exact (List.append_nil data).symm
  | primitive name p sh rest ih =>
      obtain ⟨x, msg⟩ := msg
      rw [serialize, serialize, ih, ih msg (serPrimitive sh x []), serPrimitive_append, List.append_assoc]
  | string name sh rest ih =>
      obtain ⟨x, msg⟩ := msg
      rw [serialize, serialize, ih, ih msg (serMember serString sh x []),
        serMember_append serString_append, List.append_assoc]
  | message name members sh rest ihm ih =>
      obtain ⟨x, msg⟩ := msg
      rw [serialize, serialize, ih, ih msg (serMember (serialize members) sh x []),
        serMember_append ihm, List.append_assoc]
  | unsupported name typeId sh rest ih => exact (List.append_nil data).symm

theorem serString_nil {str : Bytes} (h : str.length < 2 ^ 32) : serString str [] = counted 4 str := by
  rw [serString, serUint32, toUint32_of_lt h, List.take_length]
  rfl

theorem serArr_nil {α : Type} {ser : α → Bytes → Bytes} (h : ∀ x data, ser x data = data ++ ser x [])
    {arr : List α} (hlen : arr.length < 2 ^ 32) :
    serArr ser arr [] = bytes 4 arr.length ++ arr.flatMap fun x => ser x [] := by
  rw [serArr_append h, toUint32_of_lt hlen, List.take_length, List.nil_append]

theorem flatMap_memory_length {p : Primitive} (arr : List p.Memory) :
    (arr.flatMap fun x => List.ofFn x).length = arr.length * p.size := by
  induction arr with
  | nil => exact (Nat.zero_mul _).symm
  | cons x arr ih =>
      rw [List.flatMap_cons, List.length_append, List.length_ofFn, ih, List.length_cons, Nat.succ_mul,
        Nat.add_comm]

theorem serSimpleArr_nil {p : Primitive} {arr : List p.Memory} (h : arr.length * p.size < 2 ^ 32) :
    serSimpleArr arr [] = bytes 4 arr.length ++ arr.flatMap fun x => List.ofFn x := by
  have hcount : arr.length < 2 ^ 32 := (Nat.le_mul_of_pos_right _ p.size_pos).trans_lt h
  rw [serSimpleArr, toUint32_of_lt hcount, toUint32_of_lt h, ← flatMap_memory_length, List.take_length]
  rfl

/-! ### Blocks of memory -/

namespace Reader

theorem memory_ofFn {p : Primitive} (x : p.Memory) : memory (List.ofFn x) = x := by
  funext i
  rw [memory, List.getD_eq_getElem _ _ (by rw [List.length_ofFn]; exact i.isLt), List.getElem_ofFn]

theorem memories_succ {p : Primitive} (count : ℕ) (block : Bytes) :
    (memories (count + 1) block : List p.Memory) =
      memory (block.take p.size) :: memories count (block.drop p.size) := by
  rw [memories, List.replicate_succ, List.splitLengths_cons, List.map_cons]
  rfl

theorem memories_flatMap {p : Primitive} (arr : List p.Memory) :
    memories arr.length (arr.flatMap fun x => List.ofFn x) = arr := by
  induction arr with
  | nil => rfl
  | cons x arr ih =>
      have hlen : (List.ofFn x).length = p.size := List.length_ofFn
      rw [List.length_cons, memories_succ, List.flatMap_cons, List.take_left' hlen, List.drop_left' hlen,
        memory_ofFn, ih]

end Reader

/-! ### What is written is read -/

theorem reads_countCode {size : ℕ+} (h : (size : ℕ) < 2 ^ 32) :
    Reads (countCode size) size (bytes 4 size) := by
  have hchecked : Reads (if (size : ℕ) ≠ 0 ∧ (size : ℕ) ≠ size then .fail else .pure (size : ℕ))
      (size : ℕ) ([] : Bytes) := by
    rw [if_neg fun hne => hne.2 rfl]
    exact reads_pure _
  have hcount := (reads_word_of_lt (k := 4) h).andThen
    (f := fun count => if count ≠ 0 ∧ count ≠ (size : ℕ) then .fail else .pure count) hchecked
  rw [List.append_nil] at hcount
  exact hcount

theorem reads_stringCode {rosidl : Rosidl} {str : Bytes} (h : str.length < 2 ^ 32)
    (hmemory : rosidl.assignn str.length) : Reads (stringCode rosidl) str (serString str []) := by
  rw [serString_nil h]
  apply (reads_word_of_lt (k := 4) h).andThen
  rw [blockCode, if_pos hmemory]
  exact reads_take str

theorem reads_primitiveCode {rosidl : Rosidl} {p : Primitive} {sh : Shape} {x : sh.Of p.Memory}
    (h : sh.Room (rosidl.sequenceInit p) p.size x) :
    Reads (primitiveCode rosidl p sh) x (serPrimitive sh x []) := by
  cases sh with
  | single =>
      have hread := (reads_take (List.ofFn x)).map (Reader.memory (p := p))
      rw [List.length_ofFn, Reader.memory_ofFn] at hread
      exact hread
  | sequence =>
      obtain ⟨hlen, hmemory⟩ := h
      have hcount : x.length < 2 ^ 32 := (Nat.le_mul_of_pos_right _ p.size_pos).trans_lt hlen
      have hblock := (reads_take (x.flatMap fun y => List.ofFn y)).map (Reader.memories (p := p) x.length)
      rw [flatMap_memory_length, Reader.memories_flatMap] at hblock
      rw [primitiveCode, serPrimitive, serSimpleArr_nil hlen]
      apply (reads_word_of_lt (k := 4) hcount).andThen
      rw [blockCode, if_pos hmemory]
      exact hblock
  | array size =>
      have hlen : (List.ofFn x).length = size := List.length_ofFn
      have hcount : (size : ℕ) < 2 ^ 32 := (Nat.le_mul_of_pos_right _ p.size_pos).trans_lt h
      have hblock := (reads_take ((List.ofFn x).flatMap fun y => List.ofFn y)).map
        fun block (i : Fin size) => (Reader.memories (p := p) size block).getD i fun _ => 0
      have hvalue : (fun i : Fin size => (Reader.memories (p := p) size
          ((List.ofFn x).flatMap fun y => List.ofFn y)).getD i fun _ => 0) = x := by
        funext i
        have hall := Reader.memories_flatMap (List.ofFn x)
        rw [hlen] at hall
        rw [hall, List.getD_eq_getElem _ _ (by rw [hlen]; exact i.isLt), List.getElem_ofFn]
      rw [hvalue, flatMap_memory_length, hlen] at hblock
      rw [primitiveCode, serPrimitive, serSimpleArr_nil (by rw [hlen]; exact h), hlen]
      exact (reads_countCode hcount).andThen hblock

theorem reads_memberCode {α : Type} {allocate : ℕ → Bool} (fresh : α) {code : α → Decoder UInt8 α}
    {ser : α → Bytes → Bytes} (happend : ∀ x data, ser x data = data ++ ser x []) {sh : Shape}
    {x : sh.Of α} (hroom : sh.Room allocate 1 x)
    (h : ∀ y ∈ sh.elements x, ∀ before, Reads (code before) y (ser y [])) (before : sh.Of α) :
    Reads (memberCode allocate fresh code sh before) x (serMember ser sh x []) := by
  cases sh with
  | single => exact h x List.mem_cons_self before
  | sequence =>
      obtain ⟨hlen, hmemory⟩ := hroom
      rw [Nat.mul_one] at hlen
      rw [memberCode, serMember, serArr_nil happend hlen]
      apply (reads_word_of_lt (k := 4) hlen).andThen
      rw [if_pos hmemory]
      exact Reads.each List.length_replicate h
  | array size =>
      have hlen : (List.ofFn x).length = size := List.length_ofFn
      have hcount : (size : ℕ) < 2 ^ 32 := by
        rw [← Nat.mul_one (size : ℕ)]
        exact hroom
      have hbefore : ((List.ofFn before).take size).length = (List.ofFn x).length := by
        rw [List.length_take_of_le (by rw [List.length_ofFn]), hlen]
      have hall := (Reads.each hbefore h).map
        fun elements (i : Fin size) => elements.getD i (before i)
      have hvalue : (fun i : Fin size => (List.ofFn x).getD i (before i)) = x := by
        funext i
        rw [List.getD_eq_getElem _ _ (by rw [hlen]; exact i.isLt), List.getElem_ofFn]
      rw [hvalue] at hall
      rw [memberCode, serMember, serArr_nil happend (by rw [hlen]; exact hcount), hlen]
      exact (reads_countCode hcount).andThen hall

/-- What is written of a message that fits is read, whatever the message was before. -/
theorem reads_messageCode {rosidl : Rosidl} {info : MessageMembers} {msg : info.Value}
    (h : Fits rosidl info msg) (before : info.Value) :
    Reads (messageCode rosidl info before) msg (serialize info msg []) := by
  induction info with
  | nil => exact reads_pure ()
  | primitive name p sh rest ih =>
      obtain ⟨x, msg⟩ := msg
      rw [serialize, serialize_append]
      exact (reads_primitiveCode h.1).andThen ((ih h.2 before.2).map _)
  | string name sh rest ih =>
      obtain ⟨x, msg⟩ := msg
      obtain ⟨⟨hroom, hstrings⟩, hrest⟩ := h
      rw [serialize, serialize_append]
      have hmember := reads_memberCode [] serString_append hroom (fun str hstr _ =>
        reads_stringCode (hstrings str hstr).1 (hstrings str hstr).2) before.1
      exact hmember.andThen ((ih hrest before.2).map _)
  | message name members sh rest ihm ih =>
      obtain ⟨x, msg⟩ := msg
      obtain ⟨⟨hroom, hmessages⟩, hrest⟩ := h
      rw [serialize, serialize_append]
      have hmember := reads_memberCode (rosidl.init members) (serialize_append members) hroom
        (fun inner hinner => ihm (hmessages inner hinner)) before.1
      exact hmember.andThen ((ih hrest before.2).map _)
  | unsupported name typeId sh rest ih => exact h.elim

end HitchOpen.LgsvlBridge
