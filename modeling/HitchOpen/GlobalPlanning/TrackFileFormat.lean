import HitchOpen.GlobalPlanning.TrackFile

/-!
# What a track file is loaded to

A track file is a header line, whose fourth to sixth fields are the origin, and a line for each waypoint
with its position, its yaw and its speed.  Both kinds of lines have further columns, and every field can
be blank but those that are read.  A file written so is loaded to the origin and the waypoints it was
written from, however each of its numbers is printed.

The two loops over the fields do not treat a blank field alike: the header loses it and its later fields
move up, a waypoint keeps it as a zero.  Neither reaches a field that is read, because the blank ones of
the header come after the sixth.
-/

namespace HitchOpen.GlobalPlanning

open HitchOpen.DelimitedText HitchOpen.Messages HitchOpen.Runtime

/-! ### The format -/

/-- Blanks within a line, such as a carriage return at its end. -/
structure Blanks where
  chars : List Char
  blank : ∀ ch ∈ chars, isBlank ch = true
  sameLine : '\n' ∉ chars

/-- A number and how it is printed: a file can have a zero as `0` in one place and as `0.0` in another. -/
structure Printed (R : Type*) where
  value : R
  print : List Char

/-- A number and the blanks after it. -/
structure Number (R : Type*) extends Printed R where
  after : Blanks

/-- A field with a number in it, or without. -/
structure Column (R : Type*) where
  number : Option (Printed R)
  after : Blanks

def Number.column {R : Type*} (x : Number R) : Column R := ⟨some x.toPrinted, x.after⟩

structure HeaderLine (R : Type*) where
  first : Number R
  second : Number R
  third : Number R
  originX : Number R
  originY : Number R
  originZ : Number R
  further : List (Column R)

structure WaypointLine (R : Type*) where
  x : Number R
  y : Number R
  z : Number R
  yaw : Column R
  speed : Number R
  further : List (Column R)

/-- A file, with or without a line feed after its last line. -/
structure TrackFile (R : Type*) where
  header : HeaderLine R
  waypoints : List (WaypointLine R)
  finalLineFeed : Bool

section

variable {R : Type*}

def HeaderLine.columns (l : HeaderLine R) : List (Column R) :=
  l.first.column :: l.second.column :: l.third.column ::
    l.originX.column :: l.originY.column :: l.originZ.column :: l.further

def WaypointLine.columns (l : WaypointLine R) : List (Column R) :=
  l.x.column :: l.y.column :: l.z.column :: l.yaw :: l.speed.column :: l.further

/-- The waypoint that a line is for. -/
def WaypointLine.point (l : WaypointLine R) : PathPoint R :=
  ⟨⟨l.x.value, l.y.value, l.z.value⟩, l.speed.value⟩

def TrackFile.lines (f : TrackFile R) : List (List (Column R)) :=
  f.header.columns :: f.waypoints.map WaypointLine.columns

def Column.text (x : Column R) : List Char := x.number.elim [] Printed.print ++ x.after.chars

def lineText (columns : List (Column R)) : List Char := [','].intercalate (columns.map Column.text)

def TrackFile.text (f : TrackFile R) : List Char :=
  ['\n'].intercalate (f.lines.map lineText) ++ if f.finalLineFeed then ['\n'] else []

/-- The numbers of a file. -/
def TrackFile.numbers (f : TrackFile R) : List (Printed R) := f.lines.flatten.filterMap Column.number

/-- A number is printed without blanks and commas, and `std::stod` reads it back, also with blanks after
it. -/
structure Prints (c : Config R) (x : Printed R) : Prop where
  nonempty : x.print ≠ []
  noBlank : ∀ ch ∈ x.print, isBlank ch = false
  noComma : ',' ∉ x.print
  stod : ∀ after : Blanks, c.stod (x.print ++ after.chars) = some x.value

/-! ### The text of a line -/

variable {c : Config R}

theorem Prints.stod_self {x : Printed R} (h : Prints c x) : c.stod x.print = some x.value := by
  have hstod := h.stod ⟨[], fun ch hch => absurd hch List.not_mem_nil, List.not_mem_nil⟩
  rwa [List.append_nil] at hstod

/-- The numbers of some columns are printed as `Prints` says. -/
def AllPrint (c : Config R) (columns : List (Column R)) : Prop :=
  ∀ column ∈ columns, ∀ x ∈ column.number, Prints c x

/-- A character that is in no printed number and no blanks is in no field. -/
theorem not_mem_text {column : Column R} {ch : Char} (hnumber : ∀ x ∈ column.number, ch ∉ x.print)
    (hblanks : ch ∉ column.after.chars) : ch ∉ column.text := by
  intro hmem
  rcases List.mem_append.mp hmem with hvalue | hafter
  · cases hx : column.number with
    | none =>
        rw [hx] at hvalue
        exact List.not_mem_nil hvalue
    | some x =>
        rw [hx] at hvalue
        exact hnumber x hx hvalue
  · exact hblanks hafter

theorem comma_not_mem_text {column : Column R} (h : ∀ x ∈ column.number, Prints c x) :
    ',' ∉ column.text := by
  refine not_mem_text (fun x hx => (h x hx).noComma) ?_
  intro hafter
  exact absurd (column.after.blank ',' hafter) (by decide)

theorem lineFeed_not_mem_text {column : Column R} (h : ∀ x ∈ column.number, Prints c x) :
    '\n' ∉ column.text := by
  refine not_mem_text ?_ column.after.sameLine
  intro x hx hvalue
  exact absurd ((h x hx).noBlank '\n' hvalue) (by decide)

theorem Number.prints_column {x : Number R} (h : Prints c x.toPrinted) :
    ∀ y ∈ x.column.number, Prints c y := by
  intro y hy
  obtain rfl : x.toPrinted = y := Option.some.inj hy
  exact h

theorem text_ne_nil {x : Number R} (h : Prints c x.toPrinted) : x.column.text ≠ [] :=
  List.append_ne_nil_of_left_ne_nil h.nonempty _

theorem lineFeed_not_mem_lineText {columns : List (Column R)} (h : AllPrint c columns) :
    '\n' ∉ lineText columns := by
  intro hmem
  rcases mem_intercalate hmem with hcomma | hfield
  · exact absurd hcomma (by decide)
  · obtain ⟨text, htext, hch⟩ := hfield
    obtain ⟨column, hcolumn, rfl⟩ := List.mem_map.mp htext
    exact lineFeed_not_mem_text (h column hcolumn) hch

/-- The first field of a line is split off as it was written. -/
theorem getlines_lineText_cons {column : Column R} {columns : List (Column R)}
    (h : ∀ x ∈ column.number, Prints c x) (hne : column.text ≠ [] ∨ columns ≠ []) :
    getlines ',' (lineText (column :: columns)) = column.text :: getlines ',' (lineText columns) := by
  rw [lineText, List.map_cons, getlines_intercalate_cons (comma_not_mem_text h)]
  · rfl
  · refine hne.imp_right ?_
    intro hcolumns hmap
    exact hcolumns (List.map_eq_nil_iff.mp hmap)

/-! ### The lines of a file -/

theorem allPrint_lines {f : TrackFile R} (h : ∀ x ∈ f.numbers, Prints c x) :
    ∀ columns ∈ f.lines, AllPrint c columns := by
  intro columns hcolumns column hcolumn x hx
  exact h x (List.mem_filterMap.mpr ⟨column, List.mem_flatten.mpr ⟨columns, hcolumns, hcolumn⟩, hx⟩)

/-- No line of a file is empty. -/
theorem lineText_ne_nil {f : TrackFile R} (h : ∀ x ∈ f.numbers, Prints c x) :
    ∀ columns ∈ f.lines, lineText columns ≠ [] := by
  intro columns hcolumns
  have hprint := allPrint_lines h columns hcolumns
  rcases List.mem_cons.mp hcolumns with hheader | hwaypoint
  · subst hheader
    exact intercalate_cons_ne_nil _ (text_ne_nil (hprint _ List.mem_cons_self _ rfl))
  · obtain ⟨l, -, rfl⟩ := List.mem_map.mp hwaypoint
    exact intercalate_cons_ne_nil _ (text_ne_nil (hprint _ List.mem_cons_self _ rfl))

/-- The file is split into the lines it was written from. -/
theorem getlines_text {f : TrackFile R} (h : ∀ x ∈ f.numbers, Prints c x) :
    getlines '\n' f.text = f.lines.map lineText := by
  refine getlines_intercalate ?_ ?_ ?_
  · intro line hline
    obtain ⟨columns, hcolumns, rfl⟩ := List.mem_map.mp hline
    exact ⟨lineFeed_not_mem_lineText (allPrint_lines h columns hcolumns),
      lineText_ne_nil h columns hcolumns⟩
  · exact List.cons_ne_nil _ _
  · cases f.finalLineFeed with
    | false => exact .inl rfl
    | true => exact .inr rfl

end

/-! ### The fields of a line -/

section Fields

variable {R : Type} [Field R] {c : Config R}

/-- A number at the front of a header line is its first field. -/
theorem headerRow_cons {x : Number R} {columns : List (Column R)} (h : Prints c x.toPrinted) :
    headerRow c (lineText (x.column :: columns)) = x.value :: headerRow c (lineText columns) := by
  have htrim : trim isBlank x.column.text = x.print :=
    trim_append h.noBlank x.after.blank h.nonempty
  rw [headerRow, getlines_lineText_cons (Number.prints_column h) (.inl (text_ne_nil h)),
    List.filterMap_cons]
  dsimp only
  rw [htrim, if_neg h.nonempty, safeStod, h.stod_self]
  rfl

/-- A number at the front of a waypoint line is its first field. -/
theorem dataRow_cons {x : Number R} {columns : List (Column R)} (h : Prints c x.toPrinted) :
    dataRow c (lineText (x.column :: columns)) = x.value :: dataRow c (lineText columns) := by
  have hstod : c.stod x.column.text = some x.value := h.stod x.after
  rw [dataRow, getlines_lineText_cons (Number.prints_column h) (.inl (text_ne_nil h)), List.map_cons,
    safeStod, hstod]
  rfl

/-- A column at the front takes up one field even if it is blank, as long as it is not the last. -/
theorem dataRow_column {column : Column R} {columns : List (Column R)}
    (h : ∀ x ∈ column.number, Prints c x) (hne : columns ≠ []) :
    dataRow c (lineText (column :: columns)) =
      safeStod c column.text :: dataRow c (lineText columns) := by
  rw [dataRow, getlines_lineText_cons h (.inr hne)]
  rfl

theorem loadOrigin_row {s : State R} {line : List Char} {a b d x y z : R} {row : List R}
    (h : headerRow c line = a :: b :: d :: x :: y :: z :: row) :
    loadOrigin c s line = .ok (some { s with originX := x, originY := y, originZ := z }) := by
  unfold loadOrigin
  dsimp only
  rw [h, if_pos (by simp only [List.length_cons]; omega)]
  rfl

theorem loadWaypoint_row {line : List Char} {x y z yaw speed : R} {row : List R}
    (h : dataRow c line = x :: y :: z :: yaw :: speed :: row) :
    loadWaypoint c line = .ok (some ⟨⟨x, y, z⟩, speed⟩) := by
  unfold loadWaypoint
  dsimp only
  rw [h, if_pos (by simp only [List.length_cons]; omega)]
  rfl

/-- The header is read to its origin. -/
theorem loadOrigin_columns (s : State R) {l : HeaderLine R} (h : AllPrint c l.columns) :
    loadOrigin c s (lineText l.columns) =
      .ok (some { s with
        originX := l.originX.value, originY := l.originY.value, originZ := l.originZ.value }) := by
  simp only [AllPrint, HeaderLine.columns, List.forall_mem_cons] at h
  obtain ⟨h1, h2, h3, hx, hy, hz, -⟩ := h
  have hrow : headerRow c (lineText l.columns) =
      l.first.value :: l.second.value :: l.third.value ::
        l.originX.value :: l.originY.value :: l.originZ.value ::
          headerRow c (lineText l.further) := by
    rw [HeaderLine.columns, headerRow_cons (h1 _ rfl), headerRow_cons (h2 _ rfl),
      headerRow_cons (h3 _ rfl), headerRow_cons (hx _ rfl), headerRow_cons (hy _ rfl),
      headerRow_cons (hz _ rfl)]
  exact loadOrigin_row hrow

/-- A later line is read to its waypoint. -/
theorem loadWaypoint_columns {l : WaypointLine R} (h : AllPrint c l.columns) :
    loadWaypoint c (lineText l.columns) = .ok (some l.point) := by
  simp only [AllPrint, WaypointLine.columns, List.forall_mem_cons] at h
  obtain ⟨hx, hy, hz, hyaw, hspeed, -⟩ := h
  have hrow : dataRow c (lineText l.columns) =
      l.x.value :: l.y.value :: l.z.value :: safeStod c l.yaw.text :: l.speed.value ::
        dataRow c (lineText l.further) := by
    rw [WaypointLine.columns, dataRow_cons (hx _ rfl), dataRow_cons (hy _ rfl),
      dataRow_cons (hz _ rfl), dataRow_column hyaw (List.cons_ne_nil _ _),
      dataRow_cons (hspeed _ rfl)]
  exact loadWaypoint_row hrow

theorem loadWaypoints_columns {ls : List (WaypointLine R)}
    (h : ∀ l ∈ ls, AllPrint c l.columns) :
    loadWaypoints c ((ls.map WaypointLine.columns).map lineText) = .ok (ls.map WaypointLine.point) := by
  rw [List.map_map]
  exact loadWaypoints_map fun l hl => loadWaypoint_columns (h l hl)

end Fields

/-! ### The file -/

section File

variable {R : Type} [Field R] {c : Config R}

/-- **Round trip.**  A file is loaded to its origin and its waypoints, in order, whatever further columns
it has. -/
theorem loadWaypointsFromCSV_text (c : Config R) (s : State R) (f : TrackFile R)
    (h : ∀ x ∈ f.numbers, Prints c x) :
    loadWaypointsFromCSV c s (some f.text) =
      .ok { s with
        originX := f.header.originX.value
        originY := f.header.originY.value
        originZ := f.header.originZ.value
        proj := (f.header.originX.value, f.header.originY.value, f.header.originZ.value)
        globalPath := some ⟨⟨0, "map"⟩, f.waypoints.map WaypointLine.point⟩ } := by
  obtain ⟨hheader, hwaypoints⟩ := List.forall_mem_cons.mp (allPrint_lines h)
  have hpoints := loadWaypoints_columns fun l hl => hwaypoints _ (List.mem_map_of_mem hl)
  exact loadWaypointsFromCSV_accepted (getlines_text h) (loadOrigin_columns s hheader) hpoints

end File

/-! ### The beginning of a shipped file -/

/-- Numbers of `LVMS_SVL_ENU_TTL_15.csv`, as they are printed in its two copies. -/
def lvmsNumbers : List (String × ℚ) :=
  [("15", 15), ("4865", 4865), ("2432.557704", 2432.557704), ("36.27207269", 36.27207269),
    ("-115.0108131", -115.0108131), ("594.9593908", 594.9593908), ("158.8110242", 158.8110242),
    ("-202.6458772", -202.6458772), ("0", 0), ("0.0", 0), ("0.6641827619", 0.6641827619), ("10.0", 10),
    ("107832.5919", 107832.5919), ("159.2444591", 159.2444591), ("-202.30657", -202.30657)]

def readsLvms : Config ℚ where
  localPathLengthM := 50
  visualize := false
  stod := fun str => lvmsNumbers.lookup (String.ofList (trim isBlank str))
  forward := fun _ x y z => ⟨x, y, z⟩

def noBlanks : Blanks := ⟨[], List.forall_mem_nil _, List.not_mem_nil⟩

def carriageReturn : Blanks := ⟨['\r'], List.forall_mem_singleton.mpr rfl, by decide⟩

/-- A number from the list, at the end of a line or before a comma. -/
def lvmsNumber (str : String) (after : Blanks) : Number ℚ :=
  ⟨⟨(lvmsNumbers.lookup str).getD 0, str.toList⟩, after⟩

/-- Two waypoints, one of them without a yaw, and lines that end in a carriage return. -/
def lvms : TrackFile ℚ where
  header :=
    { first := lvmsNumber "15" noBlanks
      second := lvmsNumber "4865" noBlanks
      third := lvmsNumber "2432.557704" noBlanks
      originX := lvmsNumber "36.27207269" noBlanks
      originY := lvmsNumber "-115.0108131" noBlanks
      originZ := lvmsNumber "594.9593908" noBlanks
      further := [⟨none, noBlanks⟩, ⟨none, noBlanks⟩, ⟨none, carriageReturn⟩] }
  waypoints :=
    [{ x := lvmsNumber "158.8110242" noBlanks
       y := lvmsNumber "-202.6458772" noBlanks
       z := lvmsNumber "0.0" noBlanks
       yaw := (lvmsNumber "0.6641827619" noBlanks).column
       speed := lvmsNumber "10.0" noBlanks
       further := [(lvmsNumber "107832.5919" noBlanks).column, (lvmsNumber "0" carriageReturn).column] },
     { x := lvmsNumber "159.2444591" noBlanks
       y := lvmsNumber "-202.30657" noBlanks
       z := lvmsNumber "0" noBlanks
       yaw := ⟨none, noBlanks⟩
       speed := lvmsNumber "10.0" carriageReturn
       further := [] }]
  finalLineFeed := true

example :
    lvms.text =
      ("15,4865,2432.557704,36.27207269,-115.0108131,594.9593908,,,\r\n" ++
        "158.8110242,-202.6458772,0.0,0.6641827619,10.0,107832.5919,0\r\n" ++
        "159.2444591,-202.30657,0,,10.0\r\n").toList := by
  decide +kernel

theorem prints_lvms {x : Printed ℚ} (hne : x.print ≠ []) (hblank : x.print.any isBlank = false)
    (hcomma : ',' ∉ x.print) (hlookup : lvmsNumbers.lookup (String.ofList x.print) = some x.value) :
    Prints readsLvms x := by
  have hkept : ∀ ch ∈ x.print, isBlank ch = false := fun ch hch =>
    Bool.eq_false_iff.mpr (List.any_eq_false.mp hblank ch hch)
  have hstod : ∀ str, readsLvms.stod str = lvmsNumbers.lookup (String.ofList (trim isBlank str)) :=
    fun _ => rfl
  refine ⟨hne, hkept, hcomma, ?_⟩
  intro after
  rw [hstod, trim_append hkept after.blank hne, hlookup]

theorem lvms_loaded :
    loadWaypointsFromCSV readsLvms initial (some lvms.text) =
      .ok { initial with
        originX := 36.27207269
        originY := -115.0108131
        originZ := 594.9593908
        proj := (36.27207269, -115.0108131, 594.9593908)
        globalPath := some ⟨⟨0, "map"⟩,
          [⟨⟨158.8110242, -202.6458772, 0⟩, 10⟩, ⟨⟨159.2444591, -202.30657, 0⟩, 10⟩]⟩ } := by
  refine loadWaypointsFromCSV_text readsLvms initial lvms ?_
  intro x hx
  have hprint : ∀ y ∈ lvms.numbers,
      y.print ≠ [] ∧ y.print.any isBlank = false ∧ ',' ∉ y.print ∧
        lvmsNumbers.lookup (String.ofList y.print) = some y.value := by
    decide +kernel
  obtain ⟨hne, hblank, hcomma, hlookup⟩ := hprint x hx
  exact prints_lvms hne hblank hcomma hlookup

end HitchOpen.GlobalPlanning
