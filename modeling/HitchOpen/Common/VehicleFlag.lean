import Mathlib.Data.UInt

/-!
# The vehicle flag message

`race_msgs/VehicleFlag` carries one byte.  Nine values are named; a publisher may put any other byte
into the field.  The timer and the keyboard node both treat seven of the nine as green, and both keep
the table `_flag_to_string` of the names, in which looking up any other byte raises `KeyError`.
-/

namespace HitchOpen.VehicleFlag

def RED : UInt8 := 0
def GREEN : UInt8 := 1
def BLACK : UInt8 := 2
def G10 : UInt8 := 10
def G20 : UInt8 := 20
def G40 : UInt8 := 40
def G60 : UInt8 := 60
def G80 : UInt8 := 80
def G100 : UInt8 := 100

/-- The test `flag == GREEN or flag == G10 or ...` that the nodes write out. -/
def isGreen (flag : UInt8) : Bool :=
  flag == GREEN || flag == G10 || flag == G20 || flag == G40 || flag == G60 || flag == G80 ||
    flag == G100

/-- `_flag_to_string`. -/
def flagToString (flag : UInt8) : Option String :=
  if flag = GREEN then some "GREEN"
  else if flag = RED then some "RED"
  else if flag = BLACK then some "BLACK"
  else if flag = G10 then some "G10"
  else if flag = G20 then some "G20"
  else if flag = G40 then some "G40"
  else if flag = G60 then some "G60"
  else if flag = G80 then some "G80"
  else if flag = G100 then some "G100"
  else none

theorem isGreen_iff {flag : UInt8} :
    isGreen flag = true ↔ flag = GREEN ∨ flag = G10 ∨ flag = G20 ∨ flag = G40 ∨ flag = G60 ∨
      flag = G80 ∨ flag = G100 := by
  simp [isGreen, or_assoc]

theorem isGreen_red : isGreen RED = false := by decide

theorem isGreen_black : isGreen BLACK = false := by decide

theorem flagToString_red : flagToString RED ≠ none := by decide

theorem red_ne_green : RED ≠ GREEN := by decide

/-- The table names the green flags, `RED` and `BLACK`, and nothing else. -/
theorem flagToString_eq_none_iff {flag : UInt8} :
    flagToString flag = none ↔ isGreen flag = false ∧ flag ≠ RED ∧ flag ≠ BLACK := by
  rw [← Bool.not_eq_true, isGreen_iff]
  rw [flagToString]
  grind

theorem flagToString_of_not_green {flag : UInt8} (h : isGreen flag = false) {name : String}
    (hname : flagToString flag = some name) : flag = RED ∨ flag = BLACK := by
  by_contra hne
  push Not at hne
  rw [flagToString_eq_none_iff.mpr ⟨h, hne.1, hne.2⟩] at hname
  cases hname

end HitchOpen.VehicleFlag
