import HitchOpen.Common.Reals
import HitchOpen.GlobalPlanning.TrackFile
import HitchOpen.GpsToEnu.ConvertCsv

/-!
# Loading a converted track

The converter begins a track file with the names of five columns; the planner expects six numbers
there, the last three of them the origin, checks for five and reads the sixth.  No converted file can
therefore be loaded.

The first line is all that is wrong: the lines that follow it are read back one waypoint each, and with
another first line a converted file loads as it should.
-/

namespace HitchOpen.GpsToEnu

open HitchOpen.DelimitedText HitchOpen.GlobalPlanning HitchOpen.Messages HitchOpen.Runtime

/-! ### What is printed -/

section Printed

variable {R : Type} [Field R] [LinearOrder R] [FloorSemiring R]

/-- A printed number consists of digits, a point and perhaps a sign. -/
theorem not_mem_format15 {delim : Char} (hdigit : delim.isDigit = false) (hpoint : delim ≠ '.')
    (hminus : delim ≠ '-') (x : R) : delim ∉ format15 x := by
  have hzero : delim ≠ '0' := ne_digitChar hdigit 0
  have hwhole := not_mem_toDigits hdigit (roundHalfEven (|x| * 10 ^ 15) / 10 ^ 15)
  have hpart := not_mem_leftpad hzero (n := 15)
    (not_mem_toDigits hdigit (roundHalfEven (|x| * 10 ^ 15) % 10 ^ 15))
  rw [format15, List.mem_append, List.mem_append, List.mem_cons]
  refine not_or.mpr ⟨not_or.mpr ⟨?_, hwhole⟩, not_or.mpr ⟨hpoint, hpart⟩⟩
  by_cases hx : x < 0
  · rw [if_pos hx]
    exact fun h => hminus (List.mem_singleton.mp h)
  · rw [if_neg hx]
    exact List.not_mem_nil

variable [Trig R] [Sqrt R]

/-- The line of a row, up to the `\n`. -/
def convertedLine (row : GpsRow R) : List Char :=
  let enu := gpsToEnu row
  format15 enu.1 ++ ',' :: (format15 enu.2.1 ++ ',' :: (format15 enu.2.2 ++ ',' :: "0.0,0.0\r".toList))

theorem writerow_convertRow (row : GpsRow R) :
    writerow (convertRow row) = convertedLine row ++ ['\n'] := by
  simp [writerow, convertRow, convertedLine, List.intercalate]

theorem newline_not_mem_convertedLine (row : GpsRow R) : '\n' ∉ convertedLine row := by
  have hformat : ∀ x : R, '\n' ∉ format15 x :=
    not_mem_format15 (by decide) (by decide) (by decide)
  simp [convertedLine, hformat]

theorem getlines_convertRows (rows : List (GpsRow R)) :
    getlines '\n' (convertRows rows) = rows.map convertedLine := by
  induction rows with
  | nil => rfl
  | cons row rows ih =>
      show getlines '\n' (writerow (convertRow row) ++ convertRows rows) = _
      rw [writerow_convertRow, List.append_assoc, List.singleton_append,
        getlines_piece (newline_not_mem_convertedLine row), ih]
      rfl

theorem fields_convertedLine (row : GpsRow R) :
    getlines ',' (convertedLine row) =
      [format15 (gpsToEnu row).1, format15 (gpsToEnu row).2.1, format15 (gpsToEnu row).2.2,
        "0.0".toList, "0.0\r".toList] := by
  have hformat : ∀ x : R, ',' ∉ format15 x :=
    not_mem_format15 (by decide) (by decide) (by decide)
  rw [convertedLine, getlines_piece (hformat _), getlines_piece (hformat _),
    getlines_piece (hformat _)]
  rfl

/-! ### What is read back -/

/-- The waypoint that the line of a row is read as. -/
def readBack (c : Config R) (row : GpsRow R) : PathPoint R :=
  ⟨⟨safeStod c (format15 (gpsToEnu row).1), safeStod c (format15 (gpsToEnu row).2.1),
    safeStod c (format15 (gpsToEnu row).2.2)⟩, safeStod c "0.0\r".toList⟩

theorem loadWaypoint_convertedLine (c : Config R) (row : GpsRow R) :
    loadWaypoint c (convertedLine row) = .ok (some (readBack c row)) := by
  rw [loadWaypoint, dataRow, fields_convertedLine]
  rfl

theorem loadWaypoints_convertRows (c : Config R) (rows : List (GpsRow R)) :
    loadWaypoints c (rows.map convertedLine) = .ok (rows.map (readBack c)) :=
  loadWaypoints_map fun row _ => loadWaypoint_convertedLine c row

/-- **After another first line.**  If the planner takes an origin from a first line, it reads the rows
of the converter after it: one waypoint for each, in order, where the row was converted to. -/
theorem convertRows_load (c : Config R) {s s' : State R} {line : List Char} (hline : '\n' ∉ line)
    (horigin : loadOrigin c s line = .ok (some s')) (rows : List (GpsRow R)) :
    loadWaypointsFromCSV c s (some (line ++ '\n' :: convertRows rows)) =
      .ok { s' with
        proj := (s'.originX, s'.originY, s'.originZ)
        globalPath := some ⟨⟨0, "map"⟩, rows.map (readBack c)⟩ } := by
  have hlines : getlines '\n' (line ++ '\n' :: convertRows rows) = line :: rows.map convertedLine := by
    rw [getlines_piece hline, getlines_convertRows]
  exact loadWaypointsFromCSV_accepted hlines horigin (loadWaypoints_convertRows c rows)

/-! ### The first line of the converter -/

/-- The planner follows the track that was converted, in the coordinates in which it was converted. -/
def LoadsBack (c : Config R) (rows : List (GpsRow R)) : Prop :=
  ∃ s path, loadWaypointsFromCSV c initial (some (convertCsv rows)) = .ok s ∧
    s.globalPath = some path ∧
    path.points.map PathPoint.position = rows.map (fun row => (readBack c row).position) ∧
    s.proj = ((ORIGIN : GpsRow R).latitude, (ORIGIN : GpsRow R).longitude, (ORIGIN : GpsRow R).altitude)

theorem convertCsv_lines (rows : List (GpsRow R)) :
    getlines '\n' (convertCsv rows) =
      "x,y,z,target_yaw,target_speed\r".toList :: rows.map convertedLine := by
  have hnames : writerow columnNames = "x,y,z,target_yaw,target_speed\r".toList ++ ['\n'] := by decide
  rw [convertCsv, hnames, List.append_assoc, List.singleton_append, getlines_piece (by decide),
    getlines_convertRows]

/-- The column names make five fields, so that the sixth is read where there is none. -/
theorem convertCsv_out_of_range (c : Config R) (s : State R) (rows : List (GpsRow R)) :
    loadWaypointsFromCSV c s (some (convertCsv rows)) = .error .outOfRange := by
  rw [loadWaypointsFromCSV_lines c s (convertCsv_lines rows), loadOrigin_five c s (by decide)]
  rfl

/-- **No converted track loads.**  Whatever positions are converted, loading the file reads past the end
of its first line; none of them becomes a waypoint. -/
theorem convertCsv_never_loadsBack (c : Config R) (rows : List (GpsRow R)) :
    loadWaypointsFromCSV c initial (some (convertCsv rows)) = .error .outOfRange ∧
      ¬ LoadsBack c rows := by
  have hload := convertCsv_out_of_range c initial rows
  refine ⟨hload, ?_⟩
  intro h
  obtain ⟨s, path, hs, -⟩ := h
  rw [hload] at hs
  cases hs

end Printed

/-- The planner, reading numbers off a table. -/
noncomputable def realPlanner : Config ℝ where
  localPathLengthM := 50
  visualize := false
  stod := fun str => (readsSomeNumbers.stod str).map fun x => (x : ℝ)
  forward := fun _ x y z => ⟨x, y, z⟩

/-- The first position of the recording `your_gps_data.csv`. -/
noncomputable def firstRecorded : GpsRow ℝ := ⟨39.79307517, -86.23891707, 0.234755054⟩

theorem firstRecorded_lost :
    ¬ ∀ (c : Config ℝ) (rows : List (GpsRow ℝ)), LoadsBack c rows := by
  intro h
  obtain ⟨s, path, hs, -⟩ := h realPlanner [firstRecorded]
  rw [convertCsv_out_of_range] at hs
  cases hs

end HitchOpen.GpsToEnu
