import HitchOpen.GlobalPlanning.PlanningNode

/-!
# Which track files are read within bounds

The parser checks the number of fields of a line before it reads them, and the checks are short by one
field in both places: a first line with five fields passes and has no `row[5]`, a later line with three
or four passes and has no `row[4]`.  A first line counts its fields without the blank ones, a later
line counts all of them.
-/

namespace HitchOpen.GlobalPlanning

open HitchOpen.DelimitedText HitchOpen.Messages HitchOpen.Runtime

/-- The number of fields of a first line: those with something to trim down to. -/
def headerFields (line : List Char) : ℕ :=
  (getlines ',' line).countP fun value => value.any fun ch => !isBlank ch

/-- The number of fields of a later line. -/
def dataFields (line : List Char) : ℕ := (getlines ',' line).length

/-- No line falls into the gap between what is checked and what is read: the first line does not have
exactly five fields, and unless it has fewer, no later line has three or four. -/
def AvoidsGaps (text : List Char) : Prop :=
  match getlines '\n' text with
  | [] => True
  | line :: lines =>
      headerFields line ≠ 5 ∧
        (6 ≤ headerFields line → ∀ l ∈ lines, dataFields l ≠ 3 ∧ dataFields l ≠ 4)

section

variable {R : Type} [Field R]

theorem headerRow_length (c : Config R) (line : List Char) :
    (headerRow c line).length = headerFields line := by
  rw [headerRow, List.length_filterMap_eq_countP, headerFields]
  congr 1
  funext value
  by_cases hblank : ∀ ch ∈ value, isBlank ch = true
  · simpa [(trim_eq_nil_iff isBlank value).mpr hblank] using hblank
  · have htrim := mt (trim_eq_nil_iff isBlank value).mp hblank
    push Not at hblank
    simpa [htrim] using hblank

theorem dataRow_length (c : Config R) (line : List Char) :
    (dataRow c line).length = dataFields line := List.length_map _

/-- A first line with fewer than five fields is rejected before anything is read. -/
theorem loadOrigin_rejected (c : Config R) (s : State R) {line : List Char}
    (h : headerFields line < 5) : loadOrigin c s line = .ok none := by
  rw [← headerRow_length c] at h
  exact if_neg (by omega)

/-- A first line with six fields or more has the three that are read. -/
theorem loadOrigin_accepted (c : Config R) (s : State R) {line : List Char}
    (h : 6 ≤ headerFields line) : ∃ s', loadOrigin c s line = .ok (some s') := by
  rw [← headerRow_length c] at h
  obtain ⟨originX, hx⟩ := vectorAt_ok_iff.mpr (show 3 < (headerRow c line).length by omega)
  obtain ⟨originY, hy⟩ := vectorAt_ok_iff.mpr (show 4 < (headerRow c line).length by omega)
  obtain ⟨originZ, hz⟩ := vectorAt_ok_iff.mpr (show 5 < (headerRow c line).length by omega)
  refine ⟨{ s with originX := originX, originY := originY, originZ := originZ }, ?_⟩
  unfold loadOrigin
  dsimp only
  rw [if_pos (by omega), hx, hy, hz]
  rfl

/-- A first line with exactly five fields is accepted, and its sixth field read. -/
theorem loadOrigin_five (c : Config R) (s : State R) {line : List Char}
    (h : headerFields line = 5) : loadOrigin c s line = .error .outOfRange := by
  rw [← headerRow_length c] at h
  obtain ⟨originX, hx⟩ := vectorAt_ok_iff.mpr (show 3 < (headerRow c line).length by omega)
  obtain ⟨originY, hy⟩ := vectorAt_ok_iff.mpr (show 4 < (headerRow c line).length by omega)
  have hz : vectorAt (headerRow c line) 5 = .error .outOfRange := by
    rw [vectorAt, List.getElem?_eq_none (by omega)]
  unfold loadOrigin
  dsimp only
  rw [if_pos (by omega), hx, hy, hz]
  rfl

theorem loadWaypoint_skipped (c : Config R) {line : List Char} (h : dataFields line < 3) :
    loadWaypoint c line = .ok none := by
  rw [← dataRow_length c] at h
  exact if_neg (by omega)

theorem loadWaypoint_read (c : Config R) {line : List Char} (h : 5 ≤ dataFields line) :
    ∃ point, loadWaypoint c line = .ok (some point) := by
  rw [← dataRow_length c] at h
  obtain ⟨x, hx⟩ := vectorAt_ok_iff.mpr (show 0 < (dataRow c line).length by omega)
  obtain ⟨y, hy⟩ := vectorAt_ok_iff.mpr (show 1 < (dataRow c line).length by omega)
  obtain ⟨z, hz⟩ := vectorAt_ok_iff.mpr (show 2 < (dataRow c line).length by omega)
  obtain ⟨speed, hspeed⟩ := vectorAt_ok_iff.mpr (show 4 < (dataRow c line).length by omega)
  refine ⟨⟨⟨x, y, z⟩, speed⟩, ?_⟩
  unfold loadWaypoint
  dsimp only
  rw [if_pos (by omega), hx, hy, hz, hspeed]
  rfl

/-- A later line with three or four fields is not skipped, and its fifth field read. -/
theorem loadWaypoint_gap (c : Config R) {line : List Char} (h3 : 3 ≤ dataFields line)
    (h5 : dataFields line < 5) : loadWaypoint c line = .error .outOfRange := by
  rw [← dataRow_length c] at h3 h5
  obtain ⟨x, hx⟩ := vectorAt_ok_iff.mpr (show 0 < (dataRow c line).length by omega)
  obtain ⟨y, hy⟩ := vectorAt_ok_iff.mpr (show 1 < (dataRow c line).length by omega)
  obtain ⟨z, hz⟩ := vectorAt_ok_iff.mpr (show 2 < (dataRow c line).length by omega)
  have hspeed : vectorAt (dataRow c line) 4 = .error .outOfRange := by
    rw [vectorAt, List.getElem?_eq_none (by omega)]
  unfold loadWaypoint
  dsimp only
  rw [if_pos (by omega), hx, hy, hz, hspeed]
  rfl

theorem loadWaypoint_ok_iff (c : Config R) (line : List Char) :
    (∃ point, loadWaypoint c line = .ok point) ↔ dataFields line ≠ 3 ∧ dataFields line ≠ 4 := by
  by_cases hskip : dataFields line < 3
  · exact iff_of_true ⟨none, loadWaypoint_skipped c hskip⟩ (by omega)
  · by_cases hread : 5 ≤ dataFields line
    · obtain ⟨point, hpoint⟩ := loadWaypoint_read c hread
      exact iff_of_true ⟨some point, hpoint⟩ (by omega)
    · refine iff_of_false ?_ (by omega)
      intro h
      obtain ⟨point, hpoint⟩ := h
      rw [loadWaypoint_gap c (by omega) (by omega)] at hpoint
      cases hpoint

/-- The loop over the later lines goes through when every line does. -/
theorem loadWaypoints_ok_iff (c : Config R) (lines : List (List Char)) :
    (∃ points, loadWaypoints c lines = .ok points) ↔
      ∀ l ∈ lines, dataFields l ≠ 3 ∧ dataFields l ≠ 4 := by
  induction lines with
  | nil => exact iff_of_true ⟨[], rfl⟩ (fun l hl => absurd hl List.not_mem_nil)
  | cons line lines ih =>
      rw [List.forall_mem_cons, ← ih, ← loadWaypoint_ok_iff c]
      refine ⟨?_, ?_⟩
      · intro h
        obtain ⟨points, hload⟩ := h
        obtain ⟨point, hpoint, hrest⟩ := bind_ok_iff.mp hload
        obtain ⟨points', hpoints', -⟩ := bind_ok_iff.mp hrest
        exact ⟨⟨point, hpoint⟩, points', hpoints'⟩
      · intro h
        obtain ⟨⟨point, hpoint⟩, points, hpoints⟩ := h
        refine ⟨point.toList ++ points, ?_⟩
        rw [loadWaypoints, hpoint, hpoints]
        rfl

/-- When every line is read as the waypoint that it was written for, so are all of them. -/
theorem loadWaypoints_map {α : Type*} {c : Config R} {text : α → List Char} {point : α → PathPoint R}
    {written : List α} (h : ∀ l ∈ written, loadWaypoint c (text l) = .ok (some (point l))) :
    loadWaypoints c (written.map text) = .ok (written.map point) := by
  induction written with
  | nil => rfl
  | cons l written ih =>
      obtain ⟨hl, hrest⟩ := List.forall_mem_cons.mp h
      rw [List.map_cons, loadWaypoints, hl, ih hrest]
      rfl

theorem loadTrack_ok_iff (c : Config R) (s : State R) (lines : List (List Char)) :
    (∃ s', loadTrack c s lines = .ok s') ↔ ∀ l ∈ lines, dataFields l ≠ 3 ∧ dataFields l ≠ 4 := by
  rw [← loadWaypoints_ok_iff c]
  refine ⟨?_, ?_⟩
  · intro h
    obtain ⟨s', hload⟩ := h
    obtain ⟨points, hpoints, -⟩ := bind_ok_iff.mp hload
    exact ⟨points, hpoints⟩
  · intro h
    obtain ⟨points, hpoints⟩ := h
    rw [loadTrack]
    rw [hpoints]
    exact ⟨_, rfl⟩

/-- A file with a first line goes on to the later ones unless the first is rejected. -/
theorem loadWaypointsFromCSV_lines (c : Config R) (s : State R) {text line : List Char}
    {lines : List (List Char)} (h : getlines '\n' text = line :: lines) :
    loadWaypointsFromCSV c s (some text) =
      (loadOrigin c s line).bind fun r => r.elim (.ok s) fun s => loadTrack c s lines := by
  simp only [loadWaypointsFromCSV, h]
  show (loadOrigin c s line).bind _ = _
  congr 1
  funext r
  cases r <;> rfl

/-- A file whose first line is accepted and whose later lines are read. -/
theorem loadWaypointsFromCSV_accepted {c : Config R} {s s' : State R} {text line : List Char}
    {lines : List (List Char)} {points : List (PathPoint R)}
    (h : getlines '\n' text = line :: lines) (horigin : loadOrigin c s line = .ok (some s'))
    (hpoints : loadWaypoints c lines = .ok points) :
    loadWaypointsFromCSV c s (some text) =
      .ok { s' with
        proj := (s'.originX, s'.originY, s'.originZ)
        globalPath := some ⟨⟨0, "map"⟩, points⟩ } := by
  rw [loadWaypointsFromCSV_lines c s h, horigin]
  show loadTrack c s' lines = _
  rw [loadTrack, hpoints]
  rfl

/-- **Reads within bounds.**  Loading a file reads no field that its line does not have exactly when
no line of the file falls into a gap. -/
theorem loadWaypointsFromCSV_ok_iff (c : Config R) (s : State R) (text : List Char) :
    (∃ s', loadWaypointsFromCSV c s (some text) = .ok s') ↔ AvoidsGaps text := by
  unfold loadWaypointsFromCSV AvoidsGaps
  dsimp only
  cases getlines '\n' text with
  | nil =>
      refine iff_of_true ?_ trivial
      exact (loadTrack_ok_iff c s []).mpr fun l hl => absurd hl List.not_mem_nil
  | cons line lines =>
      dsimp only
      rcases Nat.lt_trichotomy (headerFields line) 5 with hless | hfive | hmore
      · rw [loadOrigin_rejected c s hless]
        exact iff_of_true ⟨s, rfl⟩ ⟨by omega, fun h => absurd h (by omega)⟩
      · rw [loadOrigin_five c s hfive]
        refine iff_of_false ?_ fun h => h.1 hfive
        intro h
        obtain ⟨s', hload⟩ := h
        cases hload
      · obtain ⟨s₁, hs₁⟩ := loadOrigin_accepted c s hmore
        rw [hs₁]
        show (∃ s', loadTrack c s₁ lines = .ok s') ↔ _
        rw [loadTrack_ok_iff]
        exact ⟨fun h => ⟨by omega, fun _ => h⟩, fun h => h.2 hmore⟩

end

/-- `std::stod` on the numbers of the files below. -/
def someNumbers : List (String × ℚ) :=
  [("0", 0), ("430", 430), ("4069.5783", 4069.5783), ("39.79476", 39.79476),
    ("-86.234915", -86.234915), ("1", 1), ("2", 2), ("3", 3)]

def readsSomeNumbers : Config ℚ where
  localPathLengthM := 50
  visualize := false
  stod := fun str => someNumbers.lookup (String.ofList str)
  forward := fun _ x y z => ⟨x, y, z⟩

/-- The first two lines of the track file `enu2.csv`. -/
def enu2 : List Char :=
  "0,430,4069.5783,39.79476,-86.234915\r\n-342.7373511,-175.6961711,-0.613539765,,70\r\n".toList

/-- Six fields in the first line, three in the second. -/
def threeFields : List Char := "0,0,0,1,2,3\n1,2,3\n".toList

/-- The shipped track file has no `row[5]` in its first line, the other one no `row[4]` in its second. -/
theorem trackFiles_out_of_range :
    loadWaypointsFromCSV readsSomeNumbers initial (some enu2) = .error .outOfRange ∧
      loadWaypointsFromCSV readsSomeNumbers initial (some threeFields) = .error .outOfRange := by
  constructor <;> decide +kernel

end HitchOpen.GlobalPlanning
