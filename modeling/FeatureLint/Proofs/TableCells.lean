import FeatureLint.Proofs.LineMarks
import FeatureLint.Proofs.TrimmedText
import Mathlib.Data.List.Forall2

/-!
# The cells of a row

A row is pieces of text with a bar in front of the first one and a bar behind each (`barred`), and
every text with a bar at both ends is written so, in one way, if the pieces have no bars
(`exists_barred`, `barred_injective`).  A single bar is a row without pieces.  The cells are the
pieces, trimmed, so that all about the cells of a row is said by `classify_eq_row_iff`.

* `row_roundTrip`: **cells that are written as a row are read back**, whatever blanks are put around
  them, and the cells of any row, written again, are read as the same cells.
-/

namespace FeatureLint

namespace Line

variable {pieces : List (List Char)} {piece cs : List Char} {line text : String}
  {cells padded : List String}

/-! ### Pieces with bars -/

/-- Pieces of text, with a bar in front of the first one and a bar behind each. -/
def barred (pieces : List (List Char)) : List Char := '|' :: pieces.flatMap (· ++ ['|'])

theorem barred_append_cons (above below : List (List Char)) (piece : List Char) :
    barred (above ++ piece :: below) =
      barred above ++ piece ++ '|' :: below.flatMap (· ++ ['|']) := by
  simp [barred]

theorem barred_concat (pieces : List (List Char)) (piece : List Char) :
    barred (pieces ++ [piece]) = barred pieces ++ piece ++ ['|'] :=
  barred_append_cons pieces [] piece

theorem getLast?_barred (pieces : List (List Char)) : (barred pieces).getLast? = some '|' := by
  cases pieces using List.reverseRecOn with
  | nil => rfl
  | append_singleton pieces piece => rw [barred_concat, List.getLast?_concat]

theorem isBlank_bar : Text.isBlank '|' = false := by decide

theorem isTrimmed_barred (pieces : List (List Char)) : Text.IsTrimmed (barred pieces) where
  head := by simp [barred, isBlank_bar]
  last := by simp [getLast?_barred, isBlank_bar]

theorem count_barred (h : ∀ piece ∈ pieces, '|' ∉ piece) :
    (barred pieces).count '|' = pieces.length + 1 := by
  induction pieces using List.reverseRecOn with
  | nil => rfl
  | append_singleton pieces piece ih =>
    have hpiece : piece.count '|' = 0 := List.count_eq_zero.mpr (h piece (by simp))
    rw [barred_concat, List.count_append, List.count_append,
      ih fun p hp => h p (List.mem_append_left _ hp), hpiece]
    simp

theorem exists_pieces (h : ('|' :: cs).getLast? = some '|') :
    ∃ pieces : List (List Char), cs = pieces.flatMap (· ++ ['|']) ∧
      ∀ piece ∈ pieces, '|' ∉ piece := by
  induction cs with
  | nil => exact ⟨[], rfl, by simp⟩
  | cons c cs ih =>
    rw [List.getLast?_cons_cons] at h
    by_cases hc : c = '|'
    · obtain ⟨pieces, rfl, hpieces⟩ := ih (hc ▸ h)
      exact ⟨[] :: pieces, by simp [hc], by simpa using hpieces⟩
    · -- the character belongs to the first piece, and there is one, as a bar has to come
      have hne : cs ≠ [] := by
        rintro rfl
        simp [hc] at h
      obtain ⟨d, ds, rfl⟩ := List.exists_cons_of_ne_nil hne
      rw [List.getLast?_cons_cons] at h
      obtain ⟨_ | ⟨piece, pieces⟩, hcs, hpieces⟩ := ih ((List.getLast?_cons_cons).trans h)
      · simp at hcs
      · obtain ⟨hpiece, hrest⟩ := List.forall_mem_cons.mp hpieces
        refine ⟨(c :: piece) :: pieces, by simp [hcs], List.forall_mem_cons.mpr ⟨?_, hrest⟩⟩
        simp [hpiece, Ne.symm hc]

/-- **A text with a bar at both ends is pieces with bars.** -/
theorem exists_barred (hhead : cs.head? = some '|') (hlast : cs.getLast? = some '|') :
    ∃ pieces, cs = barred pieces ∧ ∀ piece ∈ pieces, '|' ∉ piece := by
  obtain ⟨rest, rfl⟩ := List.head?_eq_some_iff.mp hhead
  obtain ⟨pieces, rfl, hpieces⟩ := exists_pieces hlast
  exact ⟨pieces, rfl, hpieces⟩

theorem splitOn_barred (h : ∀ piece ∈ pieces, '|' ∉ piece) :
    (barred pieces).splitOn '|' = [] :: (pieces ++ [[]]) := by
  have hpieces : (pieces.flatMap (· ++ ['|'])).splitOn '|' = pieces ++ [[]] := by
    induction pieces with
    | nil => rfl
    | cons piece pieces ih =>
      obtain ⟨hpiece, hrest⟩ := List.forall_mem_cons.mp h
      rw [List.flatMap_cons, List.append_assoc, List.singleton_append,
        List.splitOn_append_cons_self_of_not_mem hpiece, ih hrest, List.cons_append]
  exact (List.splitOn_append_cons_self_of_not_mem List.not_mem_nil _).trans (by rw [hpieces])

theorem barred_injective {pieces' : List (List Char)} (h : ∀ piece ∈ pieces, '|' ∉ piece)
    (h' : ∀ piece ∈ pieces', '|' ∉ piece) (he : barred pieces = barred pieces') :
    pieces = pieces' := by
  have hsplit := congrArg (List.splitOn '|') he
  rw [splitOn_barred h, splitOn_barred h'] at hsplit
  exact List.append_cancel_right (List.cons.inj hsplit).2

/-- A piece is what stands between two bars, and other pieces are on both sides of it. -/
theorem exists_of_barred_eq {above below : List Char} (h : ∀ piece ∈ pieces, '|' ∉ piece)
    (hpiece : '|' ∉ piece) (hcs : barred pieces = above ++ '|' :: piece ++ '|' :: below) :
    ∃ left right, pieces = left ++ piece :: right ∧ barred left = above ++ ['|'] := by
  have hhead : (above ++ ['|']).head? = some '|' := by
    have hhead : (barred pieces).head? = some '|' := rfl
    rw [hcs] at hhead
    cases above with
    | nil => rfl
    | cons c above => simpa using hhead
  have hlast : ('|' :: below).getLast? = some '|' := by
    have hlast := getLast?_barred pieces
    rw [hcs] at hlast
    simpa [List.getLast?_append, List.getLast?_cons] using hlast
  obtain ⟨left, hleft, hleft'⟩ := exists_barred hhead (by simp)
  obtain ⟨right, rfl, hright⟩ := exists_pieces hlast
  refine ⟨left, right, barred_injective h ?_ ?_, hleft.symm⟩
  · exact List.forall_mem_append.mpr ⟨hleft', List.forall_mem_cons.mpr ⟨hpiece, hright⟩⟩
  · rw [barred_append_cons, ← hleft, hcs]
    simp

theorem cellsOf_barred (h : ∀ piece ∈ pieces, '|' ∉ piece) :
    cellsOf (barred pieces) = pieces.map fun piece => String.ofList (Text.trim piece) := by
  rw [cellsOf, splitOn_barred h, List.tail_cons, List.dropLast_concat]

/-- **Rows are pieces with bars**, and their cells the pieces, trimmed. -/
theorem classify_eq_row_iff :
    classify line = row text cells ↔
      ∃ pieces, line.toList = barred pieces ∧ (∀ piece ∈ pieces, '|' ∉ piece) ∧ text = line ∧
        cells = pieces.map fun piece => String.ofList (Text.trim piece) := by
  rw [classify_eq_row]
  constructor
  · rintro ⟨⟨hhead, hlast⟩, rfl, rfl⟩
    obtain ⟨pieces, hline, hpieces⟩ := exists_barred hhead hlast
    exact ⟨pieces, hline, hpieces, rfl, by rw [hline, cellsOf_barred hpieces]⟩
  · rintro ⟨pieces, hline, hpieces, rfl, rfl⟩
    rw [hline]
    exact ⟨⟨rfl, getLast?_barred pieces⟩, rfl, (cellsOf_barred hpieces).symm⟩

/-! ### Writing rows -/

def rowText (cells : List String) : String := "|" ++ String.join (cells.map (· ++ "|"))

theorem toList_rowText (cells : List String) :
    (rowText cells).toList = barred (cells.map String.toList) := by
  simp [rowText, barred, List.flatMap_map, String.toList_join]

structure IsCell (cell : String) : Prop where
  /-- A bar would be the end of the cell. -/
  noBar : '|' ∉ cell.toList
  trimmed : Text.IsTrimmed cell.toList

instance : DecidablePred IsCell := fun cell =>
  decidable_of_iff ('|' ∉ cell.toList ∧ Text.IsTrimmed cell.toList)
    ⟨fun h => ⟨h.1, h.2⟩, fun h => ⟨h.1, h.2⟩⟩

/-- A text is another one with blanks on its left and on its right. -/
def Pads (padded text : String) : Prop :=
  ∃ left right, padded = left ++ text ++ right ∧ Text.isBlankText left = true ∧
    Text.isBlankText right = true

theorem Pads.refl (text : String) : Pads text text := ⟨"", "", by simp, rfl, rfl⟩

theorem Pads.trim (h : Pads line text) : Text.trim line.toList = Text.trim text.toList := by
  obtain ⟨left, right, rfl, hleft, hright⟩ := h
  rw [String.toList_append, String.toList_append]
  exact Text.trim_padded (List.all_eq_true.mp hleft) (List.all_eq_true.mp hright)

theorem Pads.mem_iff (h : Pads line text) {c : Char} (hc : Text.isBlank c = false) :
    c ∈ line.toList ↔ c ∈ text.toList := by
  rw [← Text.mem_trim hc, h.trim, Text.mem_trim hc]

theorem classify_rowText (h : ∀ cell ∈ cells, '|' ∉ cell.toList) :
    classify (rowText cells) =
      row (rowText cells) (cells.map fun cell => String.ofList (Text.trim cell.toList)) := by
  refine classify_eq_row_iff.mpr ⟨_, toList_rowText cells, by simpa using h, rfl, ?_⟩
  rw [List.map_map]
  rfl

theorem isCell_trim (h : '|' ∉ piece) : IsCell (String.ofList (Text.trim piece)) where
  noBar := by rwa [String.toList_ofList, Text.mem_trim isBlank_bar]
  trimmed := by
    rw [String.toList_ofList]
    exact Text.isTrimmed_trim piece

section Padded

variable (h : List.Forall₂ Pads padded cells) (hcells : ∀ cell ∈ cells, IsCell cell)

include h hcells

theorem noBar_of_pads : ∀ p ∈ padded, '|' ∉ p.toList := by
  induction h with
  | nil => simp
  | cons hpads _ ih =>
    obtain ⟨hcell, hrest⟩ := List.forall_mem_cons.mp hcells
    refine List.forall_mem_cons.mpr ⟨?_, ih hrest⟩
    rw [hpads.mem_iff isBlank_bar]
    exact hcell.noBar

theorem map_trim_of_pads :
    (padded.map fun p => String.ofList (Text.trim p.toList)) = cells := by
  induction h with
  | nil => rfl
  | cons hpads _ ih =>
    obtain ⟨hcell, hrest⟩ := List.forall_mem_cons.mp hcells
    rw [List.map_cons, ih hrest, hpads.trim, Text.trim_of_isTrimmed hcell.trimmed,
      String.ofList_toList]

theorem classify_rowText_of_pads :
    classify (rowText padded) = row (rowText padded) cells := by
  rw [classify_rowText (noBar_of_pads h hcells), map_trim_of_pads h hcells]

end Padded

/-- **Rows are read as they are written.**  Cells may be written with any blanks around each of them
and around the whole row, and the row is read as these cells.  A line that is a row has a cell less
than bars, each of them such as can be written, and written again they are read as the same
cells. -/
theorem row_roundTrip :
    (∀ (cells padded : List String) (whole : String), (∀ cell ∈ cells, IsCell cell) →
        List.Forall₂ Pads padded cells → Pads whole (rowText padded) →
        read whole = row (rowText padded) cells) ∧
      ∀ (line text : String) (cells : List String), classify line = row text cells →
        text = line ∧ cells.length + 1 = line.toList.count '|' ∧ (∀ cell ∈ cells, IsCell cell) ∧
          classify (rowText cells) = row (rowText cells) cells := by
  constructor
  · -- the blanks around the row go with `strip`, and those around the cells with their trimming
    intro cells padded whole hcells hpadded hwhole
    have hstrip : Text.strip whole = rowText padded := by
      rw [Text.strip, hwhole.trim, toList_rowText,
        Text.trim_of_isTrimmed (isTrimmed_barred _), ← toList_rowText, String.ofList_toList]
    rw [read, hstrip, classify_rowText_of_pads hpadded hcells]
  · intro line text cells h
    obtain ⟨pieces, hline, hpieces, rfl, hcells⟩ := classify_eq_row_iff.mp h
    have hisCell : ∀ cell ∈ cells, IsCell cell := by
      intro cell hcell
      rw [hcells] at hcell
      obtain ⟨piece, hpiece, rfl⟩ := List.mem_map.mp hcell
      exact isCell_trim (hpieces piece hpiece)
    refine ⟨rfl, ?_, hisCell, ?_⟩
    · rw [hline, count_barred hpieces, hcells, List.length_map]
    · -- cells without blanks around them are padded cells, too
      exact classify_rowText_of_pads (List.forall₂_same.mpr fun cell _ => Pads.refl cell) hisCell

/-- An empty cell between two others, with wide blanks, and a row whose cells are all empty. -/
theorem row_roundTrip_empty_cells :
    let cells := ["a b", "", "#"]
    let padded := [" a b\t", "\u3000", "#"]
    let whole := "\t| a b\t|\u3000|#|\x0c"
    ((∀ cell ∈ cells, IsCell cell) ∧ List.Forall₂ Pads padded cells ∧
        Pads whole (rowText padded) ∧ read whole = row (rowText padded) cells) ∧
      classify "| ||" = row "| ||" ["", ""] ∧
      (∀ cell ∈ ["", ""], IsCell cell) ∧ classify "|||" = row "|||" ["", ""] := by
  intro cells padded whole
  have hcells : ∀ cell ∈ cells, IsCell cell := by decide +kernel
  have hpadded : List.Forall₂ Pads padded cells :=
    .cons ⟨" ", "\t", by decide +kernel⟩ (.cons ⟨"", "\u3000", by decide +kernel⟩
      (.cons (Pads.refl "#") .nil))
  have hwhole : Pads whole (rowText padded) := ⟨"\t", "\x0c", by decide +kernel⟩
  have hline : classify "| ||" = row "| ||" ["", ""] := by decide +kernel
  obtain ⟨-, -, hisCell, hagain⟩ := row_roundTrip.2 "| ||" "| ||" ["", ""] hline
  exact ⟨⟨hcells, hpadded, hwhole, row_roundTrip.1 cells padded whole hcells hpadded hwhole⟩,
    hline, hisCell, hagain⟩

end Line

end FeatureLint
