import Mathlib.Data.List.DropRight

/-!
# Reading text up to a delimiter

`getline` reads up to the next delimiter and drops it; it fails when nothing is left to read.  Text
that ends with a delimiter therefore has no empty piece after it.  `getlines` is what a loop over
`getline` reads until it fails.
-/

namespace HitchOpen.DelimitedText

section Reading

variable {α : Type*} [DecidableEq α]

/-- One call of `std::getline`: the piece that was read and the text that is left. -/
def getline (delim : α) (text : List α) : Option (List α × List α) :=
  if text = [] then none
  else some (text.takeWhile (· ≠ delim), (text.dropWhile (· ≠ delim)).tail)

/-- The pieces that successive calls read. -/
def getlines (delim : α) : List α → List (List α)
  | [] => []
  | ch :: text =>
      if ch = delim then [] :: getlines delim text
      else
        match getlines delim text with
        | [] => [[ch]]
        | piece :: pieces => (ch :: piece) :: pieces

theorem getline_delim (delim : α) (text : List α) :
    getline delim (delim :: text) = some ([], text) := by
  simp [getline]

theorem getline_cons {delim ch : α} (h : ch ≠ delim) (text : List α) :
    getline delim (ch :: text) =
      some (ch :: text.takeWhile (· ≠ delim), (text.dropWhile (· ≠ delim)).tail) := by
  simp [getline, h]

/-- **The loop.**  `getlines` calls `getline` until it fails. -/
theorem getlines_eq (delim : α) (text : List α) :
    getlines delim text =
      match getline delim text with
      | none => []
      | some (piece, rest) => piece :: getlines delim rest := by
  induction text with
  | nil => rfl
  | cons ch text ih =>
      by_cases h : ch = delim
      · subst h
        rw [getline_delim, getlines, if_pos rfl]
      · rw [getline_cons h, getlines, if_neg h, ih]
        by_cases hnil : text = []
        · subst hnil
          rfl
        · rw [getline, if_neg hnil]

/-- A piece that ends with a delimiter is read as it stands. -/
theorem getlines_piece {delim : α} {piece : List α} (h : delim ∉ piece) (text : List α) :
    getlines delim (piece ++ delim :: text) = piece :: getlines delim text := by
  induction piece with
  | nil => exact if_pos rfl
  | cons ch piece ih =>
      obtain ⟨hch, hpiece⟩ := not_or.mp (mt List.mem_cons.mpr h)
      rw [List.cons_append, getlines, if_neg (Ne.symm hch), ih hpiece]

/-- A last piece without a delimiter after it is read too, unless it is empty. -/
theorem getlines_last {delim : α} {piece : List α} (h : delim ∉ piece) (hne : piece ≠ []) :
    getlines delim piece = [piece] := by
  induction piece with
  | nil => exact absurd rfl hne
  | cons ch piece ih =>
      obtain ⟨hch, hpiece⟩ := not_or.mp (mt List.mem_cons.mpr h)
      rw [getlines, if_neg (Ne.symm hch)]
      cases piece with
      | nil => rfl
      | cons ch' piece => rw [ih hpiece (List.cons_ne_nil ch' piece)]

example : getlines ',' "a,,b,".toList = [['a'], [], ['b']] := by decide

/-! ### Joined pieces -/

/-- The first of several joined pieces is read as it stands. -/
theorem getlines_intercalate_cons {delim : α} {piece : List α} {pieces : List (List α)}
    (h : delim ∉ piece) (hne : piece ≠ [] ∨ pieces ≠ []) :
    getlines delim ([delim].intercalate (piece :: pieces)) =
      piece :: getlines delim ([delim].intercalate pieces) := by
  by_cases hpieces : pieces = []
  · subst hpieces
    rw [List.intercalate_singleton, getlines_last h (hne.resolve_right (absurd rfl))]
    rfl
  · rw [List.intercalate_cons_of_ne_nil hpieces, List.append_assoc]
    exact getlines_piece h _

/-- **Round trip.**  Joined pieces are read back, whether or not a delimiter follows the last one. -/
theorem getlines_intercalate {delim : α} {pieces : List (List α)} {ending : List α}
    (h : ∀ piece ∈ pieces, delim ∉ piece ∧ piece ≠ []) (hne : pieces ≠ [])
    (hending : ending = [] ∨ ending = [delim]) :
    getlines delim ([delim].intercalate pieces ++ ending) = pieces := by
  induction pieces with
  | nil => exact absurd rfl hne
  | cons piece pieces ih =>
      obtain ⟨⟨hdelim, hpiece⟩, hpieces⟩ := List.forall_mem_cons.mp h
      by_cases hlast : pieces = []
      · subst hlast
        rw [List.intercalate_singleton]
        rcases hending with rfl | rfl
        · rw [List.append_nil, getlines_last hdelim hpiece]
        · rw [getlines_piece hdelim]
          rfl
      · rw [List.intercalate_cons_of_ne_nil hlast, List.append_assoc, List.append_assoc]
        show getlines delim (piece ++ delim :: ([delim].intercalate pieces ++ ending)) = _
        rw [getlines_piece hdelim, ih hpieces hlast]

end Reading

section Joining

variable {α : Type*}

theorem mem_intercalate {delim ch : α} {pieces : List (List α)}
    (h : ch ∈ [delim].intercalate pieces) : ch = delim ∨ ∃ piece ∈ pieces, ch ∈ piece := by
  induction pieces with
  | nil => exact absurd h List.not_mem_nil
  | cons piece pieces ih =>
      by_cases hlast : pieces = []
      · subst hlast
        rw [List.intercalate_singleton] at h
        exact .inr ⟨piece, List.mem_cons_self, h⟩
      · rw [List.intercalate_cons_of_ne_nil hlast, List.append_assoc, List.mem_append] at h
        rcases h with hpiece | hrest
        · exact .inr ⟨piece, List.mem_cons_self, hpiece⟩
        · rcases List.mem_cons.mp hrest with hch | hrest
          · exact .inl hch
          · refine (ih hrest).imp_right ?_
            intro hmem
            obtain ⟨piece', hpiece', hch⟩ := hmem
            exact ⟨piece', List.mem_cons_of_mem piece hpiece', hch⟩

theorem intercalate_cons_ne_nil {delim : α} {piece : List α} (pieces : List (List α))
    (h : piece ≠ []) : [delim].intercalate (piece :: pieces) ≠ [] := by
  by_cases hlast : pieces = []
  · subst hlast
    rwa [List.intercalate_singleton]
  · rw [List.intercalate_cons_of_ne_nil hlast, List.append_assoc]
    exact List.append_ne_nil_of_left_ne_nil h _

end Joining

section Trimming

variable {α : Type*}

/-- A piece without the leading and trailing elements that `drop` picks. -/
def trim (drop : α → Bool) (piece : List α) : List α := (piece.dropWhile drop).rdropWhile drop

theorem trim_eq_nil_iff (drop : α → Bool) (piece : List α) :
    trim drop piece = [] ↔ ∀ ch ∈ piece, drop ch = true := by
  rw [trim, List.rdropWhile_eq_nil_iff]
  refine ⟨?_, ?_⟩
  · intro h ch hch
    by_contra hkeep
    obtain hmem : ch ∈ piece.dropWhile drop := by
      rw [← List.takeWhile_append_dropWhile (p := drop) (l := piece)] at hch
      rcases List.mem_append.mp hch with htake | hdrop
      · exact absurd (List.mem_takeWhile_imp htake) hkeep
      · exact hdrop
    exact hkeep (h ch hmem)
  · intro h ch hch
    exact h ch (List.dropWhile_subset drop hch)

/-- What follows a piece is trimmed off it. -/
theorem trim_append {drop : α → Bool} {piece after : List α} (hpiece : ∀ ch ∈ piece, drop ch = false)
    (hafter : ∀ ch ∈ after, drop ch = true) (hne : piece ≠ []) :
    trim drop (piece ++ after) = piece := by
  obtain ⟨ch, rest, rfl⟩ := List.exists_cons_of_ne_nil hne
  have hfirst : ((ch :: rest) ++ after).dropWhile drop = (ch :: rest) ++ after := by
    rw [List.cons_append, List.dropWhile_cons, hpiece ch List.mem_cons_self]
    rfl
  rw [trim, hfirst, List.rdropWhile, List.reverse_append,
    List.dropWhile_append_of_pos fun ch' hch' => hafter ch' (List.mem_reverse.mp hch')]
  refine List.rdropWhile_eq_self_iff.mpr ?_
  intro hlast hdrop
  rw [hpiece _ (List.getLast_mem hlast)] at hdrop
  cases hdrop

end Trimming

end HitchOpen.DelimitedText
