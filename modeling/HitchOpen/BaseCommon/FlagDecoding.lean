import HitchOpen.BaseCommon.Flags
import HitchOpen.Library.FirstMatch

/-!
# Track and vehicle flags

Of the flags that are set, the decoders pick the track flag and the vehicle flag to show: the first one
in the order of their tests.  The encoders go the other way, from the number that is displayed to the
flag with that name.

The track flags are decoded as they should be.  The chain for the vehicle flags tests the black flag a
second time where it should test the blue one, so that a blue flag is never decoded.
-/

namespace HitchOpen.BaseCommon

open HitchOpen.FirstMatch

def Flags.hasRedFlag (f : Flags) : Bool := f.hasFlag FlagName.red.bit
def Flags.hasFcyFlag (f : Flags) : Bool := f.hasFlag FlagName.fcy.bit
def Flags.hasGreenFlag (f : Flags) : Bool := f.hasFlag FlagName.green.bit
def Flags.hasWgreenFlag (f : Flags) : Bool := f.hasFlag FlagName.wgreen.bit
def Flags.hasCheckeredFlag (f : Flags) : Bool := f.hasFlag FlagName.checkered.bit
def Flags.hasG40Flag (f : Flags) : Bool := f.hasFlag FlagName.g40.bit
def Flags.hasG60Flag (f : Flags) : Bool := f.hasFlag FlagName.g60.bit
def Flags.hasG80Flag (f : Flags) : Bool := f.hasFlag FlagName.g80.bit
def Flags.hasG100Flag (f : Flags) : Bool := f.hasFlag FlagName.g100.bit
def Flags.hasG120Flag (f : Flags) : Bool := f.hasFlag FlagName.g120.bit
def Flags.hasG130Flag (f : Flags) : Bool := f.hasFlag FlagName.g130.bit
def Flags.hasG140Flag (f : Flags) : Bool := f.hasFlag FlagName.g140.bit
def Flags.hasG145Flag (f : Flags) : Bool := f.hasFlag FlagName.g145.bit
def Flags.hasG150Flag (f : Flags) : Bool := f.hasFlag FlagName.g150.bit
def Flags.hasG155Flag (f : Flags) : Bool := f.hasFlag FlagName.g155.bit
def Flags.hasG160Flag (f : Flags) : Bool := f.hasFlag FlagName.g160.bit
def Flags.hasG165Flag (f : Flags) : Bool := f.hasFlag FlagName.g165.bit
def Flags.hasG170Flag (f : Flags) : Bool := f.hasFlag FlagName.g170.bit
def Flags.hasG175Flag (f : Flags) : Bool := f.hasFlag FlagName.g175.bit
def Flags.hasG180Flag (f : Flags) : Bool := f.hasFlag FlagName.g180.bit
def Flags.hasG185Flag (f : Flags) : Bool := f.hasFlag FlagName.g185.bit
def Flags.hasG190Flag (f : Flags) : Bool := f.hasFlag FlagName.g190.bit
def Flags.hasOrangeFlag (f : Flags) : Bool := f.hasFlag FlagName.orange.bit
def Flags.hasYellowFlag (f : Flags) : Bool := f.hasFlag FlagName.yellow.bit
def Flags.hasStopFlag (f : Flags) : Bool := f.hasFlag FlagName.stop.bit
def Flags.hasBlackFlag (f : Flags) : Bool := f.hasFlag FlagName.black.bit
def Flags.hasPurpleFlag (f : Flags) : Bool := f.hasFlag FlagName.purple.bit
def Flags.hasBlueFlag (f : Flags) : Bool := f.hasFlag FlagName.blue.bit
def Flags.hasDefenderFlag (f : Flags) : Bool := f.hasFlag FlagName.defender.bit
def Flags.hasAttackerFlag (f : Flags) : Bool := f.hasFlag FlagName.attacker.bit
def Flags.hasEkillFlag (f : Flags) : Bool := f.hasFlag FlagName.ekill.bit

def Flags.hasAnyGreenFlag (f : Flags) : Bool :=
  f.hasGreenFlag || f.hasWgreenFlag || f.hasG40Flag || f.hasG60Flag ||
    f.hasG80Flag || f.hasG100Flag || f.hasG120Flag || f.hasG130Flag ||
    f.hasG140Flag || f.hasG145Flag || f.hasG150Flag || f.hasG155Flag ||
    f.hasG160Flag || f.hasG165Flag || f.hasG170Flag || f.hasG175Flag ||
    f.hasG180Flag || f.hasG185Flag || f.hasG190Flag

inductive TrackFlag
  | none
  | red | fcy | green | wgreen | checkered
  | g40 | g60 | g80 | g100 | g120 | g130 | g140 | g145 | g150 | g155 | g160
  | g165 | g170 | g175 | g180 | g185 | g190
  deriving DecidableEq

/-- The enumerators of `TrackFlag`. -/
def TrackFlag.number : TrackFlag → UInt8
  | .none => 0
  | .red => 3
  | .fcy => 9
  | .green => 1
  | .wgreen => 37
  | .checkered => 4
  | .g40 => 40
  | .g60 => 60
  | .g80 => 80
  | .g100 => 100
  | .g120 => 120
  | .g130 => 130
  | .g140 => 140
  | .g145 => 145
  | .g150 => 150
  | .g155 => 155
  | .g160 => 160
  | .g165 => 165
  | .g170 => 170
  | .g175 => 175
  | .g180 => 180
  | .g185 => 185
  | .g190 => 190

inductive VehicleFlag
  | none
  | orange | yellow | stop | black | purple | blue | defender | attacker | ekill
  deriving DecidableEq

/-- The enumerators of `VehicleFlag`. -/
def VehicleFlag.number : VehicleFlag → UInt8
  | .none => 0
  | .orange => 25
  | .yellow => 7
  | .stop => 34
  | .black => 4
  | .purple => 32
  | .blue => 2
  | .defender => 35
  | .attacker => 36
  | .ekill => 33

def getTrackFlagFromFlags (flags : Flags) : TrackFlag :=
  if flags.hasRedFlag then .red
  else if flags.hasFcyFlag then .fcy
  else if flags.hasGreenFlag then .green
  else if flags.hasWgreenFlag then .wgreen
  else if flags.hasCheckeredFlag then .checkered
  else if flags.hasG40Flag then .g40
  else if flags.hasG60Flag then .g60
  else if flags.hasG80Flag then .g80
  else if flags.hasG100Flag then .g100
  else if flags.hasG120Flag then .g120
  else if flags.hasG130Flag then .g130
  else if flags.hasG140Flag then .g140
  else if flags.hasG145Flag then .g145
  else if flags.hasG150Flag then .g150
  else if flags.hasG155Flag then .g155
  else if flags.hasG160Flag then .g160
  else if flags.hasG165Flag then .g165
  else if flags.hasG170Flag then .g170
  else if flags.hasG175Flag then .g175
  else if flags.hasG180Flag then .g180
  else if flags.hasG185Flag then .g185
  else if flags.hasG190Flag then .g190
  else .none

/-- The sixth test is for the black flag again. -/
def getVehicleFlagFromFlags (flags : Flags) : VehicleFlag :=
  if flags.hasOrangeFlag then .orange
  else if flags.hasYellowFlag then .yellow
  else if flags.hasStopFlag then .stop
  else if flags.hasBlackFlag then .black
  else if flags.hasPurpleFlag then .purple
  else if flags.hasBlackFlag then .blue
  else if flags.hasDefenderFlag then .defender
  else if flags.hasAttackerFlag then .attacker
  else if flags.hasEkillFlag then .ekill
  else .none

def getFlagsFromTrackFlag (trackFlag : UInt8) : Flags :=
  if trackFlag = TrackFlag.red.number then ⟨FlagName.red.bit⟩
  else if trackFlag = TrackFlag.fcy.number then ⟨FlagName.fcy.bit⟩
  else if trackFlag = TrackFlag.green.number then ⟨FlagName.green.bit⟩
  else if trackFlag = TrackFlag.wgreen.number then ⟨FlagName.wgreen.bit⟩
  else if trackFlag = TrackFlag.checkered.number then ⟨FlagName.checkered.bit⟩
  else if trackFlag = TrackFlag.g40.number then ⟨FlagName.g40.bit⟩
  else if trackFlag = TrackFlag.g60.number then ⟨FlagName.g60.bit⟩
  else if trackFlag = TrackFlag.g80.number then ⟨FlagName.g80.bit⟩
  else if trackFlag = TrackFlag.g100.number then ⟨FlagName.g100.bit⟩
  else if trackFlag = TrackFlag.g120.number then ⟨FlagName.g120.bit⟩
  else if trackFlag = TrackFlag.g130.number then ⟨FlagName.g130.bit⟩
  else if trackFlag = TrackFlag.g140.number then ⟨FlagName.g140.bit⟩
  else if trackFlag = TrackFlag.g145.number then ⟨FlagName.g145.bit⟩
  else if trackFlag = TrackFlag.g150.number then ⟨FlagName.g150.bit⟩
  else if trackFlag = TrackFlag.g155.number then ⟨FlagName.g155.bit⟩
  else if trackFlag = TrackFlag.g160.number then ⟨FlagName.g160.bit⟩
  else if trackFlag = TrackFlag.g165.number then ⟨FlagName.g165.bit⟩
  else if trackFlag = TrackFlag.g170.number then ⟨FlagName.g170.bit⟩
  else if trackFlag = TrackFlag.g175.number then ⟨FlagName.g175.bit⟩
  else if trackFlag = TrackFlag.g180.number then ⟨FlagName.g180.bit⟩
  else if trackFlag = TrackFlag.g185.number then ⟨FlagName.g185.bit⟩
  else if trackFlag = TrackFlag.g190.number then ⟨FlagName.g190.bit⟩
  else Flags.none

def getFlagsFromVehicleFlag (vehicleFlag : UInt8) : Flags :=
  if vehicleFlag = VehicleFlag.orange.number then ⟨FlagName.orange.bit⟩
  else if vehicleFlag = VehicleFlag.yellow.number then ⟨FlagName.yellow.bit⟩
  else if vehicleFlag = VehicleFlag.stop.number then ⟨FlagName.stop.bit⟩
  else if vehicleFlag = VehicleFlag.black.number then ⟨FlagName.black.bit⟩
  else if vehicleFlag = VehicleFlag.purple.number then ⟨FlagName.purple.bit⟩
  else if vehicleFlag = VehicleFlag.blue.number then ⟨FlagName.blue.bit⟩
  else if vehicleFlag = VehicleFlag.defender.number then ⟨FlagName.defender.bit⟩
  else if vehicleFlag = VehicleFlag.attacker.number then ⟨FlagName.attacker.bit⟩
  else if vehicleFlag = VehicleFlag.ekill.number then ⟨FlagName.ekill.bit⟩
  else Flags.none

/-! ### The flags by name -/

/-- The track flags, in the order of their priority. -/
def trackFlags : List (FlagName × TrackFlag) :=
  [(.red, .red), (.fcy, .fcy), (.green, .green), (.wgreen, .wgreen), (.checkered, .checkered),
    (.g40, .g40), (.g60, .g60), (.g80, .g80), (.g100, .g100), (.g120, .g120), (.g130, .g130),
    (.g140, .g140), (.g145, .g145), (.g150, .g150), (.g155, .g155), (.g160, .g160), (.g165, .g165),
    (.g170, .g170), (.g175, .g175), (.g180, .g180), (.g185, .g185), (.g190, .g190)]

/-- The vehicle flags, in the order of their priority. -/
def vehicleFlags : List (FlagName × VehicleFlag) :=
  [(.orange, .orange), (.yellow, .yellow), (.stop, .stop), (.black, .black), (.purple, .purple),
    (.blue, .blue), (.defender, .defender), (.attacker, .attacker), (.ekill, .ekill)]

/-- The tests of `getVehicleFlagFromFlags`. -/
def vehicleTests : List (FlagName × VehicleFlag) :=
  [(.orange, .orange), (.yellow, .yellow), (.stop, .stop), (.black, .black), (.purple, .purple),
    (.black, .blue), (.defender, .defender), (.attacker, .attacker), (.ekill, .ekill)]

/-- The green flags of any kind. -/
def greenFlags : List FlagName :=
  [.green, .wgreen, .g40, .g60, .g80, .g100, .g120, .g130, .g140, .g145, .g150, .g155, .g160,
    .g165, .g170, .g175, .g180, .g185, .g190]

theorem getTrackFlagFromFlags_eq (f : Flags) :
    getTrackFlagFromFlags f = firstMatch (fun name => f.hasFlag name.bit) .none trackFlags := rfl

theorem getVehicleFlagFromFlags_eq (f : Flags) :
    getVehicleFlagFromFlags f = firstMatch (fun name => f.hasFlag name.bit) .none vehicleTests := rfl

theorem hasAnyGreenFlag_eq (f : Flags) :
    f.hasAnyGreenFlag = greenFlags.any fun name => f.hasFlag name.bit := by
  simp only [Flags.hasAnyGreenFlag, greenFlags, List.any_cons, List.any_nil, Bool.or_assoc,
    Bool.or_false]
  rfl

/-- The number of a track flag is encoded as the flag of that name. -/
theorem getFlagsFromTrackFlag_number :
    ∀ e ∈ trackFlags, getFlagsFromTrackFlag e.2.number = ⟨e.1.bit⟩ := by
  decide

theorem getFlagsFromVehicleFlag_number :
    ∀ e ∈ vehicleFlags, getFlagsFromVehicleFlag e.2.number = ⟨e.1.bit⟩ := by
  decide

/-- The flags of `g` are set in `f`, and there are some. -/
def Flags.NonemptySubset (g f : Flags) : Prop :=
  g ≠ Flags.none ∧ ∀ i, g.flags.getLsbD i = true → f.flags.getLsbD i = true

theorem FlagName.nonemptySubset {name : FlagName} {f : Flags} (h : f.hasFlag name.bit = true) :
    Flags.NonemptySubset ⟨name.bit⟩ f := by
  refine ⟨?_, ?_⟩
  · intro hnone
    have hbit := name.getLsbD_bit name.offset
    rw [show name.bit = 0#32 from congrArg Flags.flags hnone, BitVec.getLsbD_zero] at hbit
    simp at hbit
  · intro i hi
    rw [FlagName.getLsbD_bit, decide_eq_true_eq] at hi
    rw [hi]
    exact (Flags.hasFlag_iff f name).mp h

/-! ### Track flags -/

theorem hasAnyGreenFlag_iff (f : Flags) (hred : f.hasRedFlag = false) (hfcy : f.hasFcyFlag = false)
    (hcheckered : f.hasCheckeredFlag = false) :
    f.hasAnyGreenFlag = true ↔ ∃ e ∈ trackFlags, f.hasFlag e.1.bit = true := by
  have hname : ∀ e ∈ trackFlags,
      e.1 ∈ greenFlags ∨ e.1 = .red ∨ e.1 = .fcy ∨ e.1 = .checkered := by decide
  have hrow : ∀ name ∈ greenFlags, ∃ e ∈ trackFlags, e.1 = name := by decide
  rw [hasAnyGreenFlag_eq, List.any_eq_true]
  refine ⟨?_, ?_⟩
  · rintro ⟨name, hmem, hset⟩
    obtain ⟨e, he, rfl⟩ := hrow name hmem
    exact ⟨e, he, hset⟩
  · rintro ⟨e, he, hset⟩
    rcases hname e he with hgreen | hother | hother | hother
    · exact ⟨e.1, hgreen, hset⟩
    · rw [hother] at hset
      exact absurd hset (ne_true_of_eq_false hred)
    · rw [hother] at hset
      exact absurd hset (ne_true_of_eq_false hfcy)
    · rw [hother] at hset
      exact absurd hset (ne_true_of_eq_false hcheckered)

/-- **Track flags.**  The decoder finds the first of the track flags that are set, its number is encoded
as a flag that is set, and the test for any green flag agrees with it. -/
theorem getTrackFlagFromFlags_spec (f : Flags) :
    (getTrackFlagFromFlags f = .none ↔ ∀ e ∈ trackFlags, f.hasFlag e.1.bit = false) ∧
      (getTrackFlagFromFlags f ≠ .none → ∃ before e after, trackFlags = before ++ e :: after ∧
        (∀ b ∈ before, f.hasFlag b.1.bit = false) ∧ f.hasFlag e.1.bit = true ∧
        getTrackFlagFromFlags f = e.2 ∧
        Flags.NonemptySubset (getFlagsFromTrackFlag (getTrackFlagFromFlags f).number) f) ∧
      (f.hasRedFlag = false → f.hasFcyFlag = false → f.hasCheckeredFlag = false →
        (f.hasAnyGreenFlag = true ↔ getTrackFlagFromFlags f ≠ .none)) := by
  have hnone : getTrackFlagFromFlags f = .none ↔ ∀ e ∈ trackFlags, f.hasFlag e.1.bit = false := by
    rw [getTrackFlagFromFlags_eq]
    exact firstMatch_eq_fallback_iff (by decide)
  have hsome : getTrackFlagFromFlags f ≠ .none ↔ ∃ e ∈ trackFlags, f.hasFlag e.1.bit = true := by
    rw [Ne, hnone]
    push Not
    simp only [ne_eq, Bool.not_eq_false]
  refine ⟨hnone, ?_, ?_⟩
  · intro h
    obtain ⟨before, e, after, heq, hbefore, hset, hvalue⟩ :=
      firstMatch_first (fun name : FlagName => f.hasFlag name.bit) TrackFlag.none (hsome.mp h)
    rw [← getTrackFlagFromFlags_eq] at hvalue
    refine ⟨before, e, after, heq, hbefore, hset, hvalue, ?_⟩
    have hmem : e ∈ trackFlags := heq ▸ List.mem_append_right before List.mem_cons_self
    rw [hvalue, getFlagsFromTrackFlag_number e hmem]
    exact FlagName.nonemptySubset hset
  · intro hred hfcy hcheckered
    rw [hasAnyGreenFlag_iff f hred hfcy hcheckered, hsome]

/-! ### Vehicle flags -/

/-- The decoder finds a vehicle flag that is set, unless there is none. -/
def DecodesVehicleFlag (f : Flags) : Prop :=
  (getVehicleFlagFromFlags f = .none ↔ ∀ e ∈ vehicleFlags, f.hasFlag e.1.bit = false) ∧
    (getVehicleFlagFromFlags f ≠ .none →
      Flags.NonemptySubset (getFlagsFromVehicleFlag (getVehicleFlagFromFlags f).number) f)

/-- A blue flag is not the only vehicle flag. -/
def BlueAccompanied (f : Flags) : Prop :=
  f.hasBlueFlag = true → ∃ e ∈ vehicleFlags, e.1 ≠ .blue ∧ f.hasFlag e.1.bit = true

/-- Flags without a vehicle flag. -/
structure TrackFlagBits where
  flags : Flags
  noVehicleFlag : ∀ e ∈ vehicleFlags, flags.hasFlag e.1.bit = false

/-- The second test for the black flag is never reached with a black flag. -/
theorem getVehicleFlagFromFlags_withoutBlue (f : Flags) :
    getVehicleFlagFromFlags f =
      firstMatch (fun name => f.hasFlag name.bit) .none (vehicleFlags.erase (.blue, .blue)) := by
  rw [getVehicleFlagFromFlags_eq]
  cases hblack : f.hasFlag FlagName.black.bit with
  | true => simp [vehicleTests, vehicleFlags, firstMatch, hblack]
  | false => simp [vehicleTests, vehicleFlags, firstMatch, hblack]

theorem mem_withoutBlue :
    ∀ e ∈ vehicleFlags, e ∈ vehicleFlags.erase (.blue, .blue) ↔ e.1 ≠ .blue := by
  decide

theorem getVehicleFlagFromFlags_none_iff (f : Flags) :
    getVehicleFlagFromFlags f = .none ↔
      ∀ e ∈ vehicleFlags, e.1 ≠ .blue → f.hasFlag e.1.bit = false := by
  rw [getVehicleFlagFromFlags_withoutBlue, firstMatch_eq_fallback_iff (by decide)]
  refine ⟨?_, ?_⟩
  · intro h e he hblue
    exact h e ((mem_withoutBlue e he).mpr hblue)
  · intro h e he
    have hmem := List.mem_of_mem_erase he
    exact h e hmem ((mem_withoutBlue e hmem).mp he)

/-- A vehicle flag that is found is set. -/
theorem getVehicleFlagFromFlags_set {f : Flags} (h : getVehicleFlagFromFlags f ≠ .none) :
    Flags.NonemptySubset (getFlagsFromVehicleFlag (getVehicleFlagFromFlags f).number) f := by
  rw [getVehicleFlagFromFlags_withoutBlue] at h
  obtain ⟨e, he, hset, hvalue⟩ := firstMatch_mem h
  rw [getVehicleFlagFromFlags_withoutBlue, hvalue,
    getFlagsFromVehicleFlag_number e (List.mem_of_mem_erase he)]
  exact FlagName.nonemptySubset hset

theorem decodesVehicleFlag_iff (f : Flags) : DecodesVehicleFlag f ↔ BlueAccompanied f := by
  have hblue : (FlagName.blue, VehicleFlag.blue) ∈ vehicleFlags := by decide
  rw [DecodesVehicleFlag, getVehicleFlagFromFlags_none_iff]
  refine ⟨?_, ?_⟩
  · rintro ⟨hnone, -⟩ hset
    by_contra halone
    push Not at halone
    have hall := hnone.mp fun e he hne => eq_false_of_ne_true (halone e he hne)
    rw [Flags.hasBlueFlag, hall _ hblue] at hset
    cases hset
  · intro hblue
    refine ⟨⟨?_, fun h e he _ => h e he⟩, fun h => getVehicleFlagFromFlags_set h⟩
    intro h e he
    by_cases hname : e.1 = .blue
    · rw [hname]
      by_contra hset
      obtain ⟨e', he', hne, hset'⟩ := hblue (eq_true_of_ne_false hset)
      rw [h e' he' hne] at hset'
      cases hset'
    · exact h e he hname

/-! ### Encoding and decoding -/

theorem Flags.hasFlag_setFlag (f g : Flags) (name : FlagName) :
    (f.setFlag g.flags).hasFlag name.bit = (f.hasFlag name.bit || g.hasFlag name.bit) := by
  rw [Bool.eq_iff_iff, Bool.or_eq_true, Flags.hasFlag_iff, Flags.hasFlag_iff, Flags.hasFlag_iff,
    Flags.setFlag, setBit, BitVec.getLsbD_or, Bool.or_eq_true]

theorem FlagName.hasFlag_bit (name other : FlagName) :
    (⟨name.bit⟩ : Flags).hasFlag other.bit = decide (other = name) := by
  rw [Bool.eq_iff_iff, Flags.hasFlag_iff, FlagName.getLsbD_bit, decide_eq_true_eq, decide_eq_true_eq]
  exact ⟨FlagName.offset_inj, congrArg FlagName.offset⟩

/-- Among the vehicle flags of a flag and some track flags there is that flag alone. -/
theorem hasFlag_encoded (g : TrackFlagBits) {e : FlagName × VehicleFlag} (he : e ∈ vehicleFlags)
    {e' : FlagName × VehicleFlag} (he' : e' ∈ vehicleFlags) :
    ((getFlagsFromVehicleFlag e.2.number).setFlag g.flags.flags).hasFlag e'.1.bit =
      decide (e'.1 = e.1) := by
  rw [Flags.hasFlag_setFlag, g.noVehicleFlag e' he', Bool.or_false,
    getFlagsFromVehicleFlag_number e he, FlagName.hasFlag_bit]

theorem getVehicleFlagFromFlags_encoded (v : VehicleFlag) (g : TrackFlagBits) :
    getVehicleFlagFromFlags ((getFlagsFromVehicleFlag v.number).setFlag g.flags.flags) = v ↔
      v ≠ .blue := by
  by_cases hv : v = .none
  · subst hv
    refine iff_of_true ?_ (by decide)
    rw [getVehicleFlagFromFlags_none_iff]
    intro e he _
    have hzero : getFlagsFromVehicleFlag VehicleFlag.none.number = Flags.none := by decide
    have hempty : Flags.none.hasFlag e.1.bit = false :=
      eq_false_of_ne_true (mt (Flags.hasFlag_ofNames [] e.1).mp List.not_mem_nil)
    rw [Flags.hasFlag_setFlag, g.noVehicleFlag e he, hzero, hempty]
    rfl
  · obtain ⟨e, he, rfl⟩ : ∃ e ∈ vehicleFlags, e.2 = v := by
      cases v with
      | none => exact absurd rfl hv
      | _ => decide
    have hsame : firstMatch (fun name => ((getFlagsFromVehicleFlag e.2.number).setFlag
          g.flags.flags).hasFlag name.bit) .none (vehicleFlags.erase (.blue, .blue)) =
        firstMatch (fun name => decide (name = e.1)) .none (vehicleFlags.erase (.blue, .blue)) :=
      firstMatch_congr fun e' he' => hasFlag_encoded g he (List.mem_of_mem_erase he')
    have hevery : ∀ e ∈ vehicleFlags, firstMatch (fun name => decide (name = e.1)) .none
        (vehicleFlags.erase (.blue, .blue)) = e.2 ↔ e.2 ≠ .blue := by decide
    rw [getVehicleFlagFromFlags_withoutBlue, hsame]
    exact hevery e he

/-- **Vehicle flags.**  A vehicle flag that is set is found unless it is a blue flag alone, and every
flag but the blue one is decoded to what it was encoded from, whatever track flags come with it. -/
theorem vehicleFlag_decoded_iff (f : Flags) (v : VehicleFlag) (g : TrackFlagBits) :
    (DecodesVehicleFlag f ↔ BlueAccompanied f) ∧
      (getVehicleFlagFromFlags ((getFlagsFromVehicleFlag v.number).setFlag g.flags.flags) = v ↔
        v ≠ .blue) :=
  ⟨decodesVehicleFlag_iff f, getVehicleFlagFromFlags_encoded v g⟩

/-- A blue flag alone, and a blue flag beside a green one. -/
theorem blueFlag_not_decoded :
    ¬ (∀ f : Flags, DecodesVehicleFlag f) ∧
      getVehicleFlagFromFlags (getFlagsFromVehicleFlag VehicleFlag.blue.number) = .none ∧
      getVehicleFlagFromFlags ((getFlagsFromVehicleFlag VehicleFlag.blue.number).setFlag
        FlagName.green.bit) = .none := by
  refine ⟨?_, by decide, by decide⟩
  intro h
  have hblue := (h (getFlagsFromVehicleFlag VehicleFlag.blue.number)).1.mp (by decide)
  exact absurd (hblue (.blue, .blue) (by decide)) (by decide)

end HitchOpen.BaseCommon
