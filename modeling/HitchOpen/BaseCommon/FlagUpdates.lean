import HitchOpen.BaseCommon.Flags
import HitchOpen.Library.History

/-!
# Setting and clearing flags

The class `Flags` changes its bitfield by masks: a call sets all bits of its mask, clears them, or does one
of the two depending on an argument.  `flags_follow_updates` says what is left after any number of calls.
Each bit stands as the last call whose mask has it has put it; `has_flag` asks for all bits of a mask,
`has_any_flag` for one of them.
-/

namespace HitchOpen.BaseCommon

open HitchOpen.History

/-! ### The other operations -/

def clearBit (bitfield mask : FlagsBitfield) : FlagsBitfield := bitfield &&& ~~~mask

def setBitTo (bitfield mask : FlagsBitfield) (isSet : Bool) : FlagsBitfield :=
  if isSet then setBit bitfield mask else clearBit bitfield mask

def isAnyBitSet (bitfield mask : FlagsBitfield) : Bool := bitfield &&& mask != 0#32

def Flags.clearFlag (f : Flags) (flags : FlagsBitfield) : Flags := ⟨clearBit f.flags flags⟩

def Flags.setFlagTo (f : Flags) (flags : FlagsBitfield) (isActive : Bool) : Flags :=
  ⟨setBitTo f.flags flags isActive⟩

def Flags.hasAnyFlag (f : Flags) (flags : FlagsBitfield) : Bool := isAnyBitSet f.flags flags

/-- A call that changes the flags. -/
inductive FlagUpdate
  | setFlag (flags : FlagsBitfield)
  | clearFlag (flags : FlagsBitfield)
  | setFlagTo (flags : FlagsBitfield) (isActive : Bool)
  deriving DecidableEq

def Flags.update (f : Flags) : FlagUpdate → Flags
  | .setFlag flags => f.setFlag flags
  | .clearFlag flags => f.clearFlag flags
  | .setFlagTo flags isActive => f.setFlagTo flags isActive

def Flags.updates (f : Flags) (us : List FlagUpdate) : Flags := us.foldl Flags.update f

/-! ### One bit -/

namespace FlagUpdate

def mask : FlagUpdate → FlagsBitfield
  | setFlag flags => flags
  | clearFlag flags => flags
  | setFlagTo flags _ => flags

def isActive : FlagUpdate → Bool
  | setFlag _ => true
  | clearFlag _ => false
  | setFlagTo _ isActive => isActive

/-- What the call makes of a bit, unless it leaves it alone. -/
def at? (i : ℕ) (u : FlagUpdate) : Option Bool := if u.mask.getLsbD i then some u.isActive else none

end FlagUpdate

theorem getLsbD_setBit (bitfield mask : FlagsBitfield) (i : ℕ) :
    (setBit bitfield mask).getLsbD i = if mask.getLsbD i then true else bitfield.getLsbD i := by
  rw [setBit, BitVec.getLsbD_or]
  cases mask.getLsbD i <;> simp

theorem getLsbD_clearBit (bitfield mask : FlagsBitfield) (i : ℕ) :
    (clearBit bitfield mask).getLsbD i = if mask.getLsbD i then false else bitfield.getLsbD i := by
  rw [clearBit, BitVec.getLsbD_and, BitVec.getLsbD_not]
  by_cases hi : i < 32
  · cases mask.getLsbD i <;> simp [hi]
  · rw [BitVec.getLsbD_of_ge bitfield i (by omega)]
    simp

theorem getLsbD_update (f : Flags) (u : FlagUpdate) (i : ℕ) :
    (f.update u).flags.getLsbD i = (u.at? i).getD (f.flags.getLsbD i) := by
  have hread : ∀ b : Bool, (if u.mask.getLsbD i then b else f.flags.getLsbD i) =
      (if u.mask.getLsbD i then some b else none).getD (f.flags.getLsbD i) := by
    intro b
    split_ifs <;> rfl
  rw [FlagUpdate.at?, ← hread]
  cases u with
  | setFlag flags => exact getLsbD_setBit f.flags flags i
  | clearFlag flags => exact getLsbD_clearBit f.flags flags i
  | setFlagTo flags isActive =>
      cases isActive with
      | true => exact getLsbD_setBit f.flags flags i
      | false => exact getLsbD_clearBit f.flags flags i

/-- A bit after any number of calls. -/
theorem getLsbD_updates (f : Flags) (us : List FlagUpdate) (i : ℕ) :
    (f.updates us).flags.getLsbD i = (last (FlagUpdate.at? i) us).getD (f.flags.getLsbD i) := by
  induction us using List.reverseRecOn with
  | nil => rfl
  | append_singleton us u ih =>
      rw [Flags.updates, List.foldl_concat, getLsbD_update, last_concat, ← Flags.updates, ih]
      cases u.at? i <;> rfl

/-! ### Masks -/

theorem hasFlag_iff_bits (f : Flags) (mask : FlagsBitfield) :
    f.hasFlag mask = true ↔ ∀ i, mask.getLsbD i = true → f.flags.getLsbD i = true := by
  rw [Flags.hasFlag, isBitSet, beq_iff_eq]
  refine ⟨?_, ?_⟩
  · intro h i hi
    rw [← h, BitVec.getLsbD_and, Bool.and_eq_true] at hi
    exact hi.1
  · intro h
    apply BitVec.eq_of_getLsbD_eq
    intro i _
    rw [BitVec.getLsbD_and]
    cases hi : mask.getLsbD i with
    | true => rw [h i hi, Bool.and_true]
    | false => rw [Bool.and_false]

theorem hasAnyFlag_iff_bits (f : Flags) (mask : FlagsBitfield) :
    f.hasAnyFlag mask = true ↔ ∃ i, mask.getLsbD i = true ∧ f.flags.getLsbD i = true := by
  rw [Flags.hasAnyFlag, isAnyBitSet, bne_iff_ne]
  refine ⟨?_, ?_⟩
  · intro h
    by_contra hnone
    apply h
    apply BitVec.eq_of_getLsbD_eq
    intro i _
    rw [BitVec.getLsbD_and, BitVec.getLsbD_zero, Bool.and_eq_false_iff]
    by_contra hboth
    rw [not_or, Bool.not_eq_false, Bool.not_eq_false] at hboth
    exact hnone ⟨i, hboth.2, hboth.1⟩
  · rintro ⟨i, hmask, hflags⟩ h
    have hbit : (f.flags &&& mask).getLsbD i = true := by
      rw [BitVec.getLsbD_and, hflags, hmask]
      rfl
    rw [h, BitVec.getLsbD_zero] at hbit
    cases hbit

/-- **The last call counts.**  After any calls, `has_flag` holds of a mask exactly when the last call that
touches a bit of it has set it, for all its bits, and `has_any_flag` when this is so for one of its bits.
A bit that no call touches is what it was. -/
theorem flags_follow_updates (f : Flags) (us : List FlagUpdate) (mask : FlagsBitfield) :
    ((f.updates us).hasFlag mask = true ↔ ∀ i, mask.getLsbD i = true →
      (last (FlagUpdate.at? i) us).getD (f.flags.getLsbD i) = true) ∧
    ((f.updates us).hasAnyFlag mask = true ↔ ∃ i, mask.getLsbD i = true ∧
      (last (FlagUpdate.at? i) us).getD (f.flags.getLsbD i) = true) := by
  simp only [hasFlag_iff_bits, hasAnyFlag_iff_bits, getLsbD_updates, and_self]

/-- A flag that is set, cleared together with another one and set again. -/
example : (Flags.none.updates [.setFlag FlagName.red.bit,
    .clearFlag (FlagName.red.bit ||| FlagName.fcy.bit), .setFlagTo FlagName.red.bit true]).hasFlag
      FlagName.red.bit = true := by
  decide

end HitchOpen.BaseCommon
