import Mathlib.Data.List.Basic

/-!
# Race flags in their bitfields

A set of race flags travels as a bitfield.  `VehicleCommand.flags` has 32 bits, one for every flag that
`VehicleBitfields` numbers; `VehicleStatus.flags_received`, in which the vehicle reports the flags back,
has 16.

`getLsbD_flagsReceived` says what the way there and back does to a bit, and `flagsReceived_iff` which
sets of flags survive it: those without a flag from the sixteenth offset on.
-/

namespace HitchOpen.BaseCommon

/-- The flags of `VehicleBitfields`, in the order of their offsets. -/
inductive FlagName
  | red | fcy | green | wgreen | checkered
  | g40 | g60 | g80 | g100 | g120 | g130 | g140 | g145 | g150 | g155 | g160
  | g165 | g170 | g175 | g180 | g185 | g190
  | orange | yellow | stop | black | purple | blue | defender | attacker | ekill
  deriving DecidableEq

/-- The constants `FLAGS_*_OFFSET`. -/
def FlagName.offset : FlagName → ℕ
  | .red => 0
  | .fcy => 1
  | .green => 2
  | .wgreen => 3
  | .checkered => 4
  | .g40 => 5
  | .g60 => 6
  | .g80 => 7
  | .g100 => 8
  | .g120 => 9
  | .g130 => 10
  | .g140 => 11
  | .g145 => 12
  | .g150 => 13
  | .g155 => 14
  | .g160 => 15
  | .g165 => 16
  | .g170 => 17
  | .g175 => 18
  | .g180 => 19
  | .g185 => 20
  | .g190 => 21
  | .orange => 22
  | .yellow => 23
  | .stop => 24
  | .black => 25
  | .purple => 26
  | .blue => 27
  | .defender => 28
  | .attacker => 29
  | .ekill => 30

/-- An enumeration over `uint32_t`; a value can combine several enumerators. -/
abbrev FlagsBitfield := BitVec 32

/-- The enumerator of a flag. -/
def FlagName.bit (name : FlagName) : FlagsBitfield := 1#32 <<< name.offset

/-- The 32-bit field of the command; the other fields of the message are left out. -/
structure VehicleCommand where
  flags : BitVec 32
  deriving DecidableEq

def setBit (bitfield mask : FlagsBitfield) : FlagsBitfield := bitfield ||| mask

def isBitSet (bitfield mask : FlagsBitfield) : Bool := bitfield &&& mask == mask

structure Flags where
  flags : FlagsBitfield
  deriving DecidableEq

/-- The default constructor. -/
def Flags.none : Flags := ⟨0#32⟩

def Flags.setFlag (f : Flags) (flags : FlagsBitfield) : Flags := ⟨setBit f.flags flags⟩

def Flags.hasFlag (f : Flags) (flags : FlagsBitfield) : Bool := isBitSet f.flags flags

def setFlags (msg : VehicleCommand) (flags : Flags) : VehicleCommand := { msg with flags := flags.flags }

def getFlags (msg : VehicleCommand) : Flags := ⟨msg.flags⟩

/-- The argument is the field `flags_received` of a `VehicleStatus`. -/
def getFlagsReceived (flagsReceived : BitVec 16) : Flags := ⟨flagsReceived.setWidth 32⟩

def setFlagsReceived (flags : Flags) : BitVec 16 := flags.flags.setWidth 16

/-! ### Sets of flags -/

/-- The flags of a list, set one after the other. -/
def Flags.ofNames (names : List FlagName) : Flags :=
  names.foldl (fun f name => f.setFlag name.bit) Flags.none

theorem FlagName.offset_lt (name : FlagName) : name.offset < 31 := by
  cases name <;> decide

def FlagName.all : List FlagName :=
  [.red, .fcy, .green, .wgreen, .checkered, .g40, .g60, .g80, .g100, .g120, .g130, .g140, .g145, .g150,
    .g155, .g160, .g165, .g170, .g175, .g180, .g185, .g190, .orange, .yellow, .stop, .black, .purple,
    .blue, .defender, .attacker, .ekill]

theorem FlagName.exists_offset : ∀ i < 31, ∃ name ∈ FlagName.all, name.offset = i := by
  decide

theorem FlagName.getLsbD_bit (name : FlagName) (i : ℕ) :
    name.bit.getLsbD i = decide (i = name.offset) := by
  have hlt := name.offset_lt
  rw [FlagName.bit, BitVec.getLsbD_shiftLeft, BitVec.getLsbD_one, Bool.eq_iff_iff]
  simp only [Bool.and_eq_true, Bool.not_eq_true', decide_eq_true_eq, decide_eq_false_iff_not]
  omega

theorem FlagName.all_getElem? (name : FlagName) : FlagName.all[name.offset]? = some name := by
  cases name <;> rfl

theorem FlagName.offset_inj {a b : FlagName} (h : a.offset = b.offset) : a = b := by
  have ha := a.all_getElem?
  rw [h, b.all_getElem?] at ha
  exact (Option.some.inj ha).symm

theorem getLsbD_foldl_setFlag (names : List FlagName) (f : Flags) (i : ℕ) :
    (names.foldl (fun f name => f.setFlag name.bit) f).flags.getLsbD i = true ↔
      f.flags.getLsbD i = true ∨ ∃ name ∈ names, name.offset = i := by
  induction names generalizing f with
  | nil => simp
  | cons name names ih =>
      rw [List.foldl_cons, ih, Flags.setFlag, setBit, BitVec.getLsbD_or, FlagName.getLsbD_bit,
        Bool.or_eq_true, decide_eq_true_eq, List.exists_mem_cons_iff, or_assoc, @eq_comm _ i]

/-- The bits that are set are the offsets of the flags. -/
theorem Flags.getLsbD_ofNames (names : List FlagName) (i : ℕ) :
    (Flags.ofNames names).flags.getLsbD i = true ↔ ∃ name ∈ names, name.offset = i := by
  rw [Flags.ofNames, getLsbD_foldl_setFlag, Flags.none, BitVec.getLsbD_zero]
  simp

theorem Flags.hasFlag_iff (f : Flags) (name : FlagName) :
    f.hasFlag name.bit = true ↔ f.flags.getLsbD name.offset = true := by
  rw [Flags.hasFlag, isBitSet, beq_iff_eq]
  refine ⟨?_, ?_⟩
  · intro h
    have hbit := congrArg (fun b => BitVec.getLsbD b name.offset) h
    rw [BitVec.getLsbD_and, FlagName.getLsbD_bit, decide_eq_true rfl, Bool.and_true] at hbit
    exact hbit
  · intro h
    apply BitVec.eq_of_getLsbD_eq
    intro i _
    rw [BitVec.getLsbD_and, FlagName.getLsbD_bit]
    by_cases hi : i = name.offset
    · rw [hi, h, Bool.true_and]
    · rw [decide_eq_false hi, Bool.and_false]

/-- A flag is read back exactly when it was set. -/
theorem Flags.hasFlag_ofNames (names : List FlagName) (name : FlagName) :
    (Flags.ofNames names).hasFlag name.bit = true ↔ name ∈ names := by
  rw [Flags.hasFlag_iff, Flags.getLsbD_ofNames]
  refine ⟨?_, fun h => ⟨name, h, rfl⟩⟩
  rintro ⟨name', hname', hoffset⟩
  exact FlagName.offset_inj hoffset ▸ hname'

/-- Every bitfield without the one bit that has no name is the field of a set of flags. -/
theorem Flags.exists_ofNames (f : Flags) (h : f.flags.getLsbD 31 = false) :
    ∃ names, Flags.ofNames names = f := by
  let names := FlagName.all.filter fun name => f.flags.getLsbD name.offset
  have hbits : (Flags.ofNames names).flags = f.flags := by
    apply BitVec.eq_of_getLsbD_eq
    intro i hi
    rw [Bool.eq_iff_iff, Flags.getLsbD_ofNames]
    refine ⟨?_, ?_⟩
    · rintro ⟨name, hname, rfl⟩
      exact (List.mem_filter.mp hname).2
    · intro hset
      have hi31 : i ≠ 31 := by
        rintro rfl
        rw [h] at hset
        cases hset
      obtain ⟨name, hname, rfl⟩ := FlagName.exists_offset i (by omega)
      exact ⟨name, List.mem_filter.mpr ⟨hname, hset⟩, rfl⟩
  exact ⟨names, congrArg Flags.mk hbits⟩

/-! ### There and back -/

/-- What the vehicle reports when it has received a command. -/
theorem getLsbD_flagsReceived (msg : VehicleCommand) (f : Flags) (i : ℕ) :
    (getFlagsReceived (setFlagsReceived (getFlags (setFlags msg f)))).flags.getLsbD i =
      (decide (i < 16) && f.flags.getLsbD i) := by
  rw [getFlagsReceived, setFlagsReceived, getFlags, setFlags, BitVec.getLsbD_setWidth,
    BitVec.getLsbD_setWidth]
  by_cases h : i < 16
  · simp [h, show i < 32 by omega]
  · simp [h]

/-- Of the flags commanded, those among the first sixteen are reported. -/
theorem hasFlag_flagsReceived (msg : VehicleCommand) (names : List FlagName) (name : FlagName) :
    (getFlagsReceived (setFlagsReceived (getFlags (setFlags msg (Flags.ofNames names))))).hasFlag
        name.bit = true ↔ name ∈ names ∧ name.offset < 16 := by
  rw [Flags.hasFlag_iff, getLsbD_flagsReceived, Bool.and_eq_true, decide_eq_true_eq,
    ← Flags.hasFlag_iff, Flags.hasFlag_ofNames, and_comm]

/-- **Flags received.**  A set of flags is reported as it was commanded exactly when none of its flags
lies beyond the sixteen bits of the status message. -/
theorem flagsReceived_iff (msg : VehicleCommand) (names : List FlagName) :
    getFlagsReceived (setFlagsReceived (getFlags (setFlags msg (Flags.ofNames names)))) =
        Flags.ofNames names ↔
      ∀ name ∈ names, name.offset < 16 := by
  refine ⟨?_, ?_⟩
  · intro h name hname
    have hset := (Flags.hasFlag_ofNames names name).mpr hname
    rw [← h] at hset
    exact ((hasFlag_flagsReceived msg names name).mp hset).2
  · intro h
    have hbits : (getFlagsReceived (setFlagsReceived (getFlags (setFlags msg
        (Flags.ofNames names))))).flags = (Flags.ofNames names).flags := by
      apply BitVec.eq_of_getLsbD_eq
      intro i _
      rw [getLsbD_flagsReceived, Bool.and_eq_right_iff_imp]
      intro hset
      obtain ⟨name, hname, rfl⟩ := (Flags.getLsbD_ofNames names i).mp hset
      exact decide_eq_true (h name hname)
    exact congrArg Flags.mk hbits

/-- A vehicle that is shown the black flag and a green flag at 165 mph reports no flag at all. -/
theorem blackFlag_not_received :
    getFlagsReceived (setFlagsReceived (getFlags (setFlags ⟨0#32⟩
      (Flags.ofNames [.black, .g165])))) = Flags.none ∧
    Flags.ofNames [.black, .g165] ≠ Flags.none ∧
    ¬ ∀ (msg : VehicleCommand) (names : List FlagName),
      getFlagsReceived (setFlagsReceived (getFlags (setFlags msg (Flags.ofNames names)))) =
        Flags.ofNames names := by
  refine ⟨by decide, by decide, ?_⟩
  intro h
  exact absurd (h ⟨0#32⟩ [.black, .g165]) (by decide)

end HitchOpen.BaseCommon
