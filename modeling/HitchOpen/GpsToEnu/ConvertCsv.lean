import HitchOpen.Common.Runtime
import Mathlib.Algebra.Order.Floor.Semiring
import Mathlib.Data.Rat.Cast.OfScientific

/-!
# The track converter

The script `gps_to_enu.py` turns a table of GPS positions into a track file: a line of column names and
for every position one line with its coordinates in the plane that touches the ellipsoid at `ORIGIN`.

The rows are the positions that `csv.DictReader` and `float` read from the table.  `f"{x:.15f}"` and
`csv.writer` are written out; the trigonometric functions and the root come with the number type.
-/

namespace HitchOpen.GpsToEnu

open HitchOpen.Runtime

/-- A latitude and a longitude in degrees, and an altitude. -/
structure GpsRow (R : Type*) where
  latitude : R
  longitude : R
  altitude : R
  deriving DecidableEq

section Projection

variable {R : Type*} [Field R]

def ORIGIN : GpsRow R := ⟨39.79476, -86.234915, 0.87⟩

/-- The semi-major axis of the ellipsoid. -/
def a : R := 6378137

/-- Its flattening. -/
def f : R := 1 / 298.257223563

/-- The square of its eccentricity. -/
def e2 : R := 2 * f - f ^ 2

variable [Trig R]

/-- `math.radians`. -/
def radians (x : R) : R := x * (Trig.pi / 180)

def geodeticToEcef [Sqrt R] (p : GpsRow R) : R × R × R :=
  let sinLat := Trig.sin (radians p.latitude)
  let cosLat := Trig.cos (radians p.latitude)
  let sinLon := Trig.sin (radians p.longitude)
  let cosLon := Trig.cos (radians p.longitude)
  let N := a / sqrt (1 - e2 * sinLat ^ 2)
  ((N + p.altitude) * cosLat * cosLon, (N + p.altitude) * cosLat * sinLon,
    (N * (1 - e2) + p.altitude) * sinLat)

/-- East, north and up at `origin`, for a displacement in geocentric coordinates. -/
def rotateAt (origin : GpsRow R) (d : R × R × R) : R × R × R :=
  let sinLat := Trig.sin (radians origin.latitude)
  let cosLat := Trig.cos (radians origin.latitude)
  let sinLon := Trig.sin (radians origin.longitude)
  let cosLon := Trig.cos (radians origin.longitude)
  (-sinLon * d.1 + cosLon * d.2.1,
    -sinLat * cosLon * d.1 - sinLat * sinLon * d.2.1 + cosLat * d.2.2,
    cosLat * cosLon * d.1 + cosLat * sinLon * d.2.1 + sinLat * d.2.2)

/-- `gps_to_enu` with the origin as an argument. -/
def enuFrom [Sqrt R] (origin p : GpsRow R) : R × R × R :=
  rotateAt origin (geodeticToEcef p - geodeticToEcef origin)

def gpsToEnu [Sqrt R] (p : GpsRow R) : R × R × R := enuFrom ORIGIN p

end Projection

/-! ### Printing -/

theorem ne_digitChar {delim : Char} (hdelim : delim.isDigit = false) (digit : Fin 10) :
    delim ≠ Nat.digitChar digit.val := by
  rintro rfl
  have hisDigit : ∀ digit : Fin 10, (Nat.digitChar digit.val).isDigit = true := by decide
  rw [hisDigit digit] at hdelim
  cases hdelim

theorem not_mem_leftpad {delim : Char} (hdelim : delim ≠ '0') {n : ℕ} {digits : List Char}
    (h : delim ∉ digits) : delim ∉ digits.leftpad n '0' := by
  intro hmem
  rcases List.mem_append.mp hmem with hpad | hdigits
  · exact hdelim (List.eq_of_mem_replicate hpad)
  · exact h hdigits

theorem not_mem_toDigits {delim : Char} (hdelim : delim.isDigit = false) (n : ℕ) :
    delim ∉ Nat.toDigits 10 n := by
  intro hmem
  have hdigit := Nat.isDigit_of_mem_toDigits (by decide) (le_refl 10) hmem
  rw [hdelim] at hdigit
  cases hdigit

section Printing

variable {R : Type*} [Field R] [LinearOrder R] [FloorSemiring R]

/-- The closest natural number, the even one of two. -/
def roundHalfEven (y : R) : ℕ :=
  let below := ⌊y⌋₊
  if y - below < 1 / 2 then below
  else if 1 / 2 < y - below then below + 1
  else if below % 2 = 0 then below
  else below + 1

/-- `f"{x:.15f}"`. -/
def format15 (x : R) : List Char :=
  let units := roundHalfEven (|x| * 10 ^ 15)
  (if x < 0 then ['-'] else []) ++ Nat.toDigits 10 (units / 10 ^ 15) ++
    '.' :: (Nat.toDigits 10 (units % 10 ^ 15)).leftpad 15 '0'

example : format15 (-1 / 3 : ℚ) = "-0.333333333333333".toList := by decide +kernel

/-- One line of `csv.writer`, for fields that need no quotation marks. -/
def writerow (fields : List (List Char)) : List Char :=
  [','].intercalate fields ++ ['\r', '\n']

def columnNames : List (List Char) :=
  ["x".toList, "y".toList, "z".toList, "target_yaw".toList, "target_speed".toList]

variable [Trig R] [Sqrt R]

def convertRow (row : GpsRow R) : List (List Char) :=
  let enu := gpsToEnu row
  [format15 enu.1, format15 enu.2.1, format15 enu.2.2, "0.0".toList, "0.0".toList]

def convertRows (rows : List (GpsRow R)) : List Char :=
  rows.flatMap fun row => writerow (convertRow row)

/-- The file that `convert_csv` writes. -/
def convertCsv (rows : List (GpsRow R)) : List Char := writerow columnNames ++ convertRows rows

end Printing

end HitchOpen.GpsToEnu
