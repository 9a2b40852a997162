import HitchOpen.Common.Reals
import HitchOpen.GpsToEnu.ConvertCsv
import HitchOpen.KeyboardController.ActuatorCommands
import HitchOpen.Library.CsvReader

/-!
# Converting a recorded table

The keyboard node saves the fixes that it has recorded, one line each.  It writes no line with the
names of the columns, and the converter takes the first line that it reads for one.  Of a recorded
table it therefore converts nothing: the first fix is lost, and at the second one the column `latitude`
is missing.

The line of names is all that is missing: with it, a recorded table is converted to a row for each fix.
-/

namespace HitchOpen.GpsToEnu

open HitchOpen.CsvReader HitchOpen.EventMachine HitchOpen.KeyboardController HitchOpen.Messages
open HitchOpen.Runtime

/-! ### What the node writes -/

/-- What `repr` makes of a finite float: digits, a point or an exponent, and perhaps a sign. -/
structure FloatText where
  negative : Bool
  whole : ℕ
  /-- The digits after the point; there is no point without them. -/
  fraction : List (Fin 10)
  exponent : Option ℤ
  deriving DecidableEq

def FloatText.text (x : FloatText) : List Char :=
  (if x.negative then ['-'] else []) ++ Nat.toDigits 10 x.whole ++
    (if x.fraction = [] then [] else '.' :: x.fraction.map fun digit => Nat.digitChar digit.val) ++
    x.exponent.elim [] fun e =>
      'e' :: (if e < 0 then '-' else '+') :: (Nat.toDigits 10 e.natAbs).leftpad 2 '0'

example : (⟨true, 1, [2, 5], some (-7)⟩ : FloatText).text = "-1.25e-07".toList := by decide

/-- The numbers of a waypoint as `csv.writer` prints them. -/
def waypointFields (repr : ℚ → FloatText) (w : Waypoint) : List (List Char) :=
  [w.1, w.2.1, w.2.2.1, w.2.2.2.1, w.2.2.2.2].map fun x => (repr x).text

/-- The file that `save_waypoints` writes: `writer.writerows(self.waypoints)`. -/
def waypointTable (repr : ℚ → FloatText) (waypoints : List Waypoint) : List Char :=
  (waypoints.map (waypointFields repr)).flatMap writerow

/-! ### What the converter reads -/

inductive TableError
  | keyError
  | typeError
  | valueError
  deriving DecidableEq

/-- What `convert_csv` has written when it ends, and the exception that ended it. -/
structure Conversion where
  written : List Char
  raised : Option TableError
  deriving DecidableEq

section Reading

variable {R : Type*}

/-- `float(row[name])`. -/
def floatAt (float : List Char → Option R) (row : List (List Char × Option (List Char)))
    (name : List Char) : Except TableError R :=
  match dictField row name with
  | none => .error .keyError
  | some none => .error .typeError
  | some (some field) => (float field).elim (.error .valueError) .ok

def readPosition (float : List Char → Option R) (row : List (List Char × Option (List Char))) :
    Except TableError (GpsRow R) := do
  let latitude ← floatAt float row "latitude".toList
  let longitude ← floatAt float row "longitude".toList
  let altitude ← floatAt float row "altitude".toList
  return ⟨latitude, longitude, altitude⟩

variable [Field R] [LinearOrder R] [FloorSemiring R] [Trig R] [Sqrt R]

/-- The loop of `convert_csv`. -/
def convertDictRows (float : List Char → Option R) :
    List (List (List Char × Option (List Char))) → Conversion
  | [] => ⟨[], none⟩
  | row :: rows =>
      match readPosition float row with
      | .error e => ⟨[], some e⟩
      | .ok position =>
          let rest := convertDictRows float rows
          ⟨writerow (convertRow position) ++ rest.written, rest.raised⟩

/-- `convert_csv` on the text of its input file. -/
def convertTable (float : List Char → Option R) (text : List Char) : Conversion :=
  let loop := convertDictRows float (dictRows excel text)
  ⟨writerow columnNames ++ loop.written, loop.raised⟩

/-- The position of a waypoint. -/
def gpsRow (w : Waypoint) : GpsRow R := ⟨w.1, w.2.1, w.2.2.1⟩

/-- Whatever file is saved, `convert_csv` turns it into one row for each recorded waypoint. -/
def SavedTableConverts (float : List Char → Option R) (repr : ℚ → FloatText) (s : State) : Prop :=
  ∀ rows, .waypointFile rows ∈ saveWaypoints s →
    convertTable float (waypointTable repr rows) =
      ⟨convertCsv (s.waypoints.map gpsRow : List (GpsRow R)), none⟩

end Reading

/-! ### The lines of a recorded table -/

/-- A printed float has no other characters. -/
theorem not_mem_text {ch : Char} (hdigit : ch.isDigit = false)
    (hch : ch ∉ ['-', '+', '.', 'e']) (x : FloatText) : ch ∉ x.text := by
  have hzero : ch ≠ '0' := ne_digitChar hdigit 0
  have hexponent : ∀ n, ch ∉ (Nat.toDigits 10 n).leftpad 2 '0' :=
    fun n => not_mem_leftpad hzero (not_mem_toDigits hdigit n)
  have hwhole := not_mem_toDigits hdigit x.whole
  simp only [List.mem_cons, List.not_mem_nil, or_false, not_or] at hch
  obtain ⟨hminus, hplus, hpoint, he⟩ := hch
  simp only [FloatText.text, List.mem_append, not_or]
  refine ⟨⟨⟨?_, hwhole⟩, ?_⟩, ?_⟩
  · split <;> simp [hminus]
  · split
    · exact List.not_mem_nil
    · simp only [List.mem_cons, List.mem_map, not_or, not_exists, not_and]
      exact ⟨hpoint, fun digit _ h => ne_digitChar hdigit digit h.symm⟩
  · cases x.exponent with
    | none => exact List.not_mem_nil
    | some e =>
        simp only [Option.elim_some, List.mem_cons, not_or]
        refine ⟨he, ?_, hexponent e.natAbs⟩
        split
        · exact hminus
        · exact hplus

theorem text_ne_nil (x : FloatText) : x.text ≠ [] := by
  have hwhole : Nat.toDigits 10 x.whole ≠ [] := Nat.toDigits_ne_nil
  simp [FloatText.text, hwhole]

theorem text_plain (x : FloatText) : Plain excel x.text where
  nonempty := text_ne_nil x
  noDelimiter := not_mem_text (by decide) (by decide) x
  noQuote := not_mem_text (by decide) (by decide) x
  noReturn := not_mem_text (by decide) (by decide) x
  noFeed := not_mem_text (by decide) (by decide) x

theorem waypointFields_plain (repr : ℚ → FloatText) (w : Waypoint) :
    waypointFields repr w ≠ [] ∧ ∀ field ∈ waypointFields repr w, Plain excel field := by
  refine ⟨List.cons_ne_nil _ _, ?_⟩
  intro field hfield
  obtain ⟨x, -, rfl⟩ := List.mem_map.mp hfield
  exact text_plain (repr x)

theorem map_waypointFields_plain (repr : ℚ → FloatText) (waypoints : List Waypoint) :
    ∀ fields ∈ waypoints.map (waypointFields repr),
      fields ≠ [] ∧ ∀ field ∈ fields, Plain excel field := by
  intro fields hfields
  obtain ⟨w, -, rfl⟩ := List.mem_map.mp hfields
  exact waypointFields_plain repr w

/-- No printed float is the name of a column. -/
theorem latitude_not_mem (repr : ℚ → FloatText) (w : Waypoint) :
    "latitude".toList ∉ waypointFields repr w := by
  intro hfield
  obtain ⟨x, -, hx⟩ := List.mem_map.mp hfield
  have hl : 'l' ∉ (repr x).text := not_mem_text (by decide) (by decide) (repr x)
  rw [hx] at hl
  exact hl (by decide)

/-- After a line of names the waypoints are read, each of its fields under a name. -/
theorem dictRows_named {names : List (List Char)}
    (hnames : names ≠ [] ∧ ∀ name ∈ names, Plain excel name) (repr : ℚ → FloatText)
    (waypoints : List Waypoint) :
    dictRows excel (writerow names ++ waypointTable repr waypoints) =
      waypoints.map fun w => dictRow names (waypointFields repr w) := by
  show dictRows excel
    ((names :: waypoints.map (waypointFields repr)).flatMap (writeRecord excel)) = _
  rw [dictRows_writeRecords hnames (map_waypointFields_plain repr waypoints), List.map_map]
  rfl

/-- The first recorded fix names the columns of the others. -/
theorem dictRows_waypointTable (repr : ℚ → FloatText) (w : Waypoint) (waypoints : List Waypoint) :
    dictRows excel (waypointTable repr (w :: waypoints)) =
      waypoints.map fun v => dictRow (waypointFields repr w) (waypointFields repr v) :=
  dictRows_named (waypointFields_plain repr w) repr waypoints

/-! ### Converting it -/

theorem readPosition_keyError {R : Type*} (float : List Char → Option R) {names : List (List Char)}
    (h : "latitude".toList ∉ names) (fields : List (List Char)) :
    readPosition float (dictRow names fields) = .error .keyError := by
  have hlatitude : floatAt float (dictRow names fields) "latitude".toList = .error .keyError := by
    rw [floatAt, dictField_eq_none h]
  rw [readPosition, hlatitude]
  rfl

section Converting

variable {R : Type*} [Field R] [LinearOrder R] [FloorSemiring R] [Trig R] [Sqrt R]

/-- **Nothing is converted.**  Of a recorded table the converter writes the column names only, and it
raises an exception unless the table has a single line. -/
theorem convertTable_waypointTable (float : List Char → Option R) (repr : ℚ → FloatText)
    (w : Waypoint) (waypoints : List Waypoint) :
    convertTable float (waypointTable repr (w :: waypoints)) =
      ⟨writerow columnNames, if waypoints = [] then none else some .keyError⟩ := by
  rw [convertTable, dictRows_waypointTable]
  cases waypoints with
  | nil => exact congrArg (Conversion.mk · none) (List.append_nil _)
  | cons v waypoints =>
      rw [List.map_cons, convertDictRows, readPosition_keyError float (latitude_not_mem repr w),
        if_neg (List.cons_ne_nil v waypoints), List.append_nil]

theorem convertCsv_cons_ne (row : GpsRow R) (rows : List (GpsRow R)) :
    convertCsv (row :: rows) ≠ writerow columnNames := by
  intro h
  have hrows : convertRows (row :: rows) = [] := List.append_right_eq_self.mp h
  have hline : writerow (convertRow row) ≠ [] :=
    List.append_ne_nil_of_right_ne_nil _ (List.cons_ne_nil _ _)
  exact hline (List.append_eq_nil_iff.mp hrows).1

/-- **Recorded tables do not convert.**  A saved table is converted to a row for each recorded waypoint
exactly when there is no saved table, because nothing has been recorded. -/
theorem savedTable_converts_iff (float : List Char → Option R) (repr : ℚ → FloatText) (s : State) :
    SavedTableConverts float repr s ↔ s.waypoints = [] := by
  unfold SavedTableConverts saveWaypoints
  cases hw : s.waypoints with
  | nil =>
      refine iff_of_true ?_ rfl
      intro rows hrows
      exact absurd hrows List.not_mem_nil
  | cons w waypoints =>
      refine iff_of_false ?_ (List.cons_ne_nil w waypoints)
      intro h
      have htable := h (w :: waypoints) (List.mem_singleton.mpr rfl)
      rw [convertTable_waypointTable] at htable
      exact convertCsv_cons_ne _ _ (congrArg Conversion.written htable).symm

end Converting

/-! ### Two recorded fixes -/

/-- The first two positions of the table `your_gps_data.csv`. -/
def firstFix : NavSatFix ℚ := ⟨39.79307517, -86.23891707, 0.234755054⟩
def secondFix : NavSatFix ℚ := ⟨39.79306343, -86.23891721, 0.231110156⟩

/-- How Python prints their numbers. -/
def printedNumbers : List (ℚ × FloatText) :=
  [(0, ⟨false, 0, [0], none⟩),
    (39.79307517, ⟨false, 39, [7, 9, 3, 0, 7, 5, 1, 7], none⟩),
    (-86.23891707, ⟨true, 86, [2, 3, 8, 9, 1, 7, 0, 7], none⟩),
    (0.234755054, ⟨false, 0, [2, 3, 4, 7, 5, 5, 0, 5, 4], none⟩),
    (39.79306343, ⟨false, 39, [7, 9, 3, 0, 6, 3, 4, 3], none⟩),
    (-86.23891721, ⟨true, 86, [2, 3, 8, 9, 1, 7, 2, 1], none⟩),
    (0.231110156, ⟨false, 0, [2, 3, 1, 1, 1, 0, 1, 5, 6], none⟩)]

def printNumber (x : ℚ) : FloatText := (printedNumbers.lookup x).getD ⟨false, 0, [0], none⟩

noncomputable def readNumber (text : List Char) : Option ℝ :=
  (printedNumbers.find? fun entry => entry.2.text = text).map fun entry => (entry.1 : ℝ)

def recordTwo : List Event :=
  [.gps firstFix, .press .ctrlR, .gps secondFix, .press .ctrlR]

/-- The node after them. -/
def recordedTwo : State where
  __ := init defaults
  latestGps := some secondFix
  waypoints := [(39.79307517, -86.23891707, 0.234755054, 0, 0),
    (39.79306343, -86.23891721, 0.231110156, 0, 0)]

example : waypointTable printNumber recordedTwo.waypoints =
    ("39.79307517,-86.23891707,0.234755054,0.0,0.0\r\n" ++
      "39.79306343,-86.23891721,0.231110156,0.0,0.0\r\n").toList := by decide +kernel

/-- Two fixes are recorded and saved; of their table nothing is converted. -/
theorem recordedTwo_not_converted :
    (keyboardNode defaults).runFrom (init defaults) recordTwo = some recordedTwo ∧
      (step defaults recordedTwo (.press (.char (some 'o')))).outputs =
        [.waypointFile recordedTwo.waypoints] ∧
      convertTable readNumber (waypointTable printNumber recordedTwo.waypoints) =
        ⟨"x,y,z,target_yaw,target_speed\r\n".toList, some .keyError⟩ ∧
      ¬ SavedTableConverts readNumber printNumber recordedTwo := by
  have hconverted := convertTable_waypointTable readNumber printNumber
    (39.79307517, -86.23891707, 0.234755054, 0, 0) [(39.79306343, -86.23891721, 0.231110156, 0, 0)]
  refine ⟨by decide +kernel, by decide +kernel, hconverted, ?_⟩
  intro h
  have htable := h recordedTwo.waypoints (List.mem_singleton.mpr rfl)
  have hraised := congrArg Conversion.raised (hconverted.symm.trans htable)
  cases hraised

/-! ### With a line of names -/

/-- The first line of a table that the converter reads. -/
def positionNames : List (List Char) := ["latitude".toList, "longitude".toList, "altitude".toList]

theorem positionNames_plain :
    positionNames ≠ [] ∧ ∀ name ∈ positionNames, Plain excel name := by
  refine ⟨List.cons_ne_nil _ _, ?_⟩
  intro name hname
  simp only [positionNames, List.mem_cons, List.not_mem_nil, or_false] at hname
  rcases hname with rfl | rfl | rfl <;>
    exact ⟨by decide, by decide, by decide, by decide, by decide⟩

theorem floatAt_some {R : Type*} {float : List Char → Option R}
    {row : List (List Char × Option (List Char))} {name field : List Char} {x : R}
    (hfield : dictField row name = some (some field)) (hx : float field = some x) :
    floatAt float row name = .ok x := by
  rw [floatAt, hfield]
  dsimp only
  rw [hx]
  rfl

section Named

variable {R : Type*} [Field R]

/-- `float` reads the coordinates of a waypoint as they were printed. -/
def ReadsPosition (float : List Char → Option R) (repr : ℚ → FloatText) (w : Waypoint) : Prop :=
  ∀ x ∈ [w.1, w.2.1, w.2.2.1], float (repr x).text = some (x : R)

theorem readPosition_named {float : List Char → Option R} {repr : ℚ → FloatText} {w : Waypoint}
    (h : ReadsPosition float repr w) :
    readPosition float (dictRow positionNames (waypointFields repr w)) = .ok (gpsRow w) := by
  have hlatitude := floatAt_some (show dictField (dictRow positionNames (waypointFields repr w))
    "latitude".toList = _ from rfl) (h w.1 (by simp))
  have hlongitude := floatAt_some (show dictField (dictRow positionNames (waypointFields repr w))
    "longitude".toList = _ from rfl) (h w.2.1 (by simp))
  have haltitude := floatAt_some (show dictField (dictRow positionNames (waypointFields repr w))
    "altitude".toList = _ from rfl) (h w.2.2.1 (by simp))
  rw [readPosition, hlatitude, hlongitude, haltitude]
  rfl

variable [LinearOrder R] [FloorSemiring R] [Trig R] [Sqrt R]

theorem convertDictRows_named {float : List Char → Option R} {repr : ℚ → FloatText}
    {waypoints : List Waypoint} (h : ∀ w ∈ waypoints, ReadsPosition float repr w) :
    convertDictRows float
        (waypoints.map fun w => dictRow positionNames (waypointFields repr w)) =
      ⟨convertRows (waypoints.map gpsRow : List (GpsRow R)), none⟩ := by
  induction waypoints with
  | nil => rfl
  | cons w waypoints ih =>
      obtain ⟨hw, hwaypoints⟩ := List.forall_mem_cons.mp h
      rw [List.map_cons, convertDictRows, readPosition_named hw, ih hwaypoints]
      rfl

/-- **With the names it converts.**  After a line with the names of the columns, a recorded table is
converted to a row for each waypoint, in order. -/
theorem convertTable_named {float : List Char → Option R} {repr : ℚ → FloatText}
    {waypoints : List Waypoint} (h : ∀ w ∈ waypoints, ReadsPosition float repr w) :
    convertTable float (writerow positionNames ++ waypointTable repr waypoints) =
      ⟨convertCsv (waypoints.map gpsRow : List (GpsRow R)), none⟩ := by
  rw [convertTable, dictRows_named positionNames_plain, convertDictRows_named h]
  rfl

end Named

end HitchOpen.GpsToEnu
