import FeatureLint.Proofs.FileLines
import FeatureLint.Proofs.ReportOrder
import FeatureLint.Proofs.TableCells

/-!
# Which cells are found empty

A finding on a cell names a file, a line and a column.  This file says when a report has it, by the
text of the file alone: the line, stripped, has a bar at both ends, and between the bars of the
column and the next one there are no characters but blanks (`HasEmptyCell`).  Nothing else about the
line counts: not what stands above it, nor whether it belongs to a table of examples.

The text is followed through the run from its end.  The place of a bar in a line is the place of a
piece behind it (`getElem?_eq_some_iff_between`), an empty cell is a piece of blanks
(`hasEmptyCell_iff`), a row is a line with its number (`exists_row_iff`), and the reports have a
finding for each empty cell of the rows (`mem_findings_emptyCell`).

* `inspectAll_emptyCells`: **the empty cells that are found are those of the files.**
-/

namespace FeatureLint

namespace Line

variable {pieces : List (List Char)} {piece : List Char} {line : String} {column n : Nat}

/-- Between bar number `n` of a text and the bar behind it stands a piece.  Bars are counted from
one. -/
def Between (cs : List Char) (n : Nat) (piece : List Char) : Prop :=
  ∃ above below, cs = above ++ '|' :: piece ++ '|' :: below ∧ above.count '|' + 1 = n ∧ '|' ∉ piece

/-- **Pieces are told by the bars in front of them.** -/
theorem getElem?_eq_some_iff_between (h : ∀ piece ∈ pieces, '|' ∉ piece) :
    pieces[n]? = some piece ↔ Between (barred pieces) (n + 1) piece := by
  constructor
  · -- the bars in front of a piece are those of the pieces before it, and the first one
    intro hpiece
    obtain ⟨hn, rfl⟩ := List.getElem?_eq_some_iff.mp hpiece
    have htake : ∀ p ∈ pieces.take n, '|' ∉ p := fun p hp => h p (List.mem_of_mem_take hp)
    obtain ⟨above, habove⟩ := List.getLast?_eq_some_iff.mp (getLast?_barred (pieces.take n))
    refine ⟨above, (pieces.drop (n + 1)).flatMap (· ++ ['|']), ?_, ?_, h _ (List.getElem_mem hn)⟩
    · have hsplit : pieces = pieces.take n ++ pieces[n] :: pieces.drop (n + 1) := by simp
      conv_lhs => rw [hsplit, barred_append_cons, habove]
      simp
    · have hcount := count_barred htake
      rw [habove, List.count_append, List.length_take, Nat.min_eq_left hn.le] at hcount
      simpa using hcount
  · rintro ⟨above, below, hcs, hcount, hpiece⟩
    obtain ⟨left, right, rfl, hleft⟩ := exists_of_barred_eq h hpiece hcs
    have hlength : left.length + 1 = above.count '|' + 1 := by
      rw [← count_barred fun p hp => h p (List.mem_append_left _ hp), hleft, List.count_append]
      rfl
    have hn : left.length = n := by omega
    rw [← hn]
    simp

/-- A line, stripped, has a bar at both ends, and between the bars of a column there is nothing but
blanks. -/
structure HasEmptyCell (line : String) (column : Nat) : Prop where
  head : (Text.strip line).toList.head? = some '|'
  last : (Text.strip line).toList.getLast? = some '|'
  blank : ∃ piece, Between (Text.strip line).toList column piece ∧
    ∀ c ∈ piece, Text.isBlank c = true

theorem ofList_trim_eq_empty : String.ofList (Text.trim piece) = "" ↔
    ∀ c ∈ piece, Text.isBlank c = true := by
  rw [← Text.trim_eq_nil, ← String.toList_inj, String.toList_ofList]
  rfl

/-- **An empty cell is a piece of blanks.** -/
theorem hasEmptyCell_iff :
    HasEmptyCell line column ↔
      ∃ text cells n, read line = row text cells ∧ cells[n]? = some "" ∧ column = n + 1 := by
  constructor
  · rintro ⟨hhead, hlast, piece, hbetween, hblank⟩
    obtain ⟨pieces, hline, hpieces⟩ := exists_barred hhead hlast
    obtain ⟨n, rfl⟩ : ∃ n, column = n + 1 := by
      obtain ⟨above, -, -, rfl, -⟩ := hbetween
      exact ⟨above.count '|', rfl⟩
    refine ⟨_, _, n, classify_eq_row_iff.mpr ⟨pieces, hline, hpieces, rfl, rfl⟩, ?_, rfl⟩
    rw [hline, ← getElem?_eq_some_iff_between hpieces] at hbetween
    rw [List.getElem?_map, hbetween, Option.map_some, ofList_trim_eq_empty.mpr hblank]
  · rintro ⟨text, cells, n, hread, hcell, rfl⟩
    obtain ⟨pieces, hline, hpieces, -, rfl⟩ := classify_eq_row_iff.mp hread
    rw [List.getElem?_map, Option.map_eq_some_iff] at hcell
    obtain ⟨piece, hpiece, hempty⟩ := hcell
    refine ⟨?_, ?_, piece, ?_, ofList_trim_eq_empty.mp hempty⟩
    · rw [hline]
      rfl
    · rw [hline, getLast?_barred]
    · rwa [hline, ← getElem?_eq_some_iff_between hpieces]

end Line

/-! ### Lines and rows -/

def Workspace.lines (w : Workspace) (p : Path) : Except Fault (List String) :=
  match w.read p with
  | .error fault => .error fault
  | .ok octets => ((Text.Utf8.decodeMarked octets).map fun cs =>
      Text.lines (Text.unifyNewlines cs)).mapError Fault.encoding

theorem Workspace.outline_eq_map_lines (w : Workspace) (p : Path) :
    w.outline p = (w.lines p).map Outline.read := by
  cases hread : w.read p with
  | error fault =>
    rw [outline, lines, hread]
    rfl
  | ok octets =>
    rw [outline_of_read hread, lines, hread]
    dsimp only
    cases Text.Utf8.decodeMarked octets <;> rfl

theorem Workspace.outline_eq_ok {w : Workspace} {p : Path} {o : Outline} :
    w.outline p = .ok o ↔ ∃ lines, w.lines p = .ok lines ∧ o = .read lines := by
  rw [outline_eq_map_lines]
  cases w.lines p <;> simp [Except.map, eq_comm]

theorem Outline.exists_row_iff {lines : List String} {line column : Nat} :
    (∃ row ∈ (read lines).rows, ∃ n, row.cells[n]? = some "" ∧ row.line = line ∧ column = n + 1) ↔
      ∃ i text, lines[i]? = some text ∧ line = i + 1 ∧ Line.HasEmptyCell text column := by
  simp only [Line.hasEmptyCell_iff]
  constructor
  · rintro ⟨row, hrow, n, hcell, rfl, hcolumn⟩
    obtain ⟨i, text', hline, hnumber⟩ := mem_rowsFrom.mp hrow
    rw [List.getElem?_map, Option.map_eq_some_iff] at hline
    obtain ⟨text, htext, hread⟩ := hline
    exact ⟨i, text, htext, by omega, text', row.cells, n, hread, hcell, hcolumn⟩
  · rintro ⟨i, text, htext, rfl, text', cells, n, hread, hcell, hcolumn⟩
    refine ⟨⟨i + 1, cells⟩, mem_rowsFrom.mpr ⟨i, text', ?_, Nat.add_comm i 1⟩, n, hcell, rfl,
      hcolumn⟩
    rw [List.getElem?_map, htext, Option.map_some, hread]

/-- In the file to which a path leads, the cell in a column of a line is empty.  Lines are counted
from one. -/
def Workspace.HasEmptyCell (w : Workspace) (p : Path) (line column : Nat) : Prop :=
  ∃ lines, w.lines p = .ok lines ∧
    ∃ i text, lines[i]? = some text ∧ line = i + 1 ∧ Line.HasEmptyCell text column

/-! ### Findings -/

namespace Report

variable {s : Policy} {readings : List Reading} {f : Finding}

theorem Origin.of_emptyCell (h : Origin s readings f) (hkind : f.kind = .emptyCell) :
    s.checkCells = true ∧ ∃ r ∈ readings, ∃ o, r.result = .ok o ∧ ∃ row ∈ o.rows, ∃ n,
      row.cells[n]? = some "" ∧ f = .emptyCell r.file row.line (n + 1) := by
  cases h with
  | emptyCell hcheck hr ho hrow hcell =>
    exact ⟨hcheck, _, hr, _, ho, _, hrow, _, hcell, rfl⟩
  | unreadable | tooMany | feature | scenario => cases hkind

theorem mem_findings_emptyCell (hcheck : s.checkCells = true) {file : String} {line column : Nat} :
    .emptyCell file line column ∈ (ofReadings s.settings readings).findings ↔
      ∃ r ∈ readings, r.file = file ∧ ∃ o, r.result = .ok o ∧ ∃ row ∈ o.rows, ∃ n,
        row.cells[n]? = some "" ∧ row.line = line ∧ column = n + 1 := by
  rw [mem_findings]
  constructor
  · intro h
    obtain ⟨-, r, hr, o, ho, row, hrow, n, hcell, hf⟩ := h.of_emptyCell rfl
    obtain ⟨rfl, rfl, rfl⟩ := Finding.emptyCell_inj.mp hf
    exact ⟨r, hr, rfl, o, ho, row, hrow, n, hcell, rfl, rfl⟩
  · rintro ⟨r, hr, rfl, o, ho, row, hrow, n, hcell, rfl, rfl⟩
    exact .emptyCell hcheck hr ho hrow hcell

end Report

namespace Inspection

variable {w : Workspace} {s : Policy} {root : Path} {paths : List Path}

theorem mem_findings_emptyCell_readingOf (hcheck : s.checkCells = true) {file : String}
    {line column : Nat} :
    .emptyCell file line column ∈
        (Report.ofReadings s.settings (paths.map (readingOf w root))).findings ↔
      ∃ p ∈ paths, fileId root p = file ∧ w.HasEmptyCell p line column := by
  rw [Report.mem_findings_emptyCell hcheck]
  constructor
  · rintro ⟨r, hr, rfl, o, ho, hrow⟩
    obtain ⟨p, hp, rfl⟩ := List.mem_map.mp hr
    obtain ⟨lines, hlines, rfl⟩ := Workspace.outline_eq_ok.mp (readingOf_result.mp ho)
    exact ⟨p, hp, rfl, lines, hlines, Outline.exists_row_iff.mp hrow⟩
  · rintro ⟨p, hp, rfl, lines, hlines, hcell⟩
    have hread : w.outline p = .ok (.read lines) := Workspace.outline_eq_ok.mpr ⟨lines, hlines, rfl⟩
    exact ⟨readingOf w root p, List.mem_map_of_mem hp, rfl, .read lines,
      readingOf_result.mpr hread, Outline.exists_row_iff.mpr hcell⟩

/-- **The empty cells that are found are those of the files.**  If empty cells are looked for, the
report on a corpus has a finding on a cell if and only if the file is found and can be read, and the
text of its line has nothing but blanks there; and then it has just one.  A finding of this kind
says nothing but the file, the line and the column. -/
theorem inspectAll_emptyCells (w : Workspace) (s : Policy) (root : Path) (paths : List Path)
    (wellFormed : w.tree.WellFormed)
    (found : (Corpus.find w s.nameFilter s.passedOver root).outcome = .ok paths)
    (checked : s.checkCells = true) :
    ∃ report, (inspectAll w s.settings root).outcome = .ok report ∧
      (∀ f ∈ report.findings, f.kind = .emptyCell →
        ∃ file line column, f = .emptyCell file line column) ∧
      ∀ file line column,
        (.emptyCell file line column ∈ report.findings ↔
          ∃ p ∈ paths, fileId root p = file ∧ w.HasEmptyCell p line column) ∧
        report.findings.count (.emptyCell file line column) ≤ 1 := by
  refine ⟨_, inspectAll_outcome s wellFormed found, ?_, fun file line column => ⟨?_, ?_⟩⟩
  · intro f hf hkind
    obtain ⟨-, r, -, o, -, row, -, n, -, rfl⟩ := (Report.mem_findings.mp hf).of_emptyCell hkind
    exact ⟨_, _, _, rfl⟩
  · exact mem_findings_emptyCell_readingOf checked
  · -- two findings that are the same would be on one file, on one line and in one column
    have hfiles : ((paths.map (readingOf w root)).map Reading.file).Nodup := by
      rw [List.map_map]
      exact Corpus.find_fileId_nodup wellFormed found
    have hrows : ∀ r ∈ paths.map (readingOf w root), ∀ o, r.result = .ok o →
        o.rows.Pairwise fun a b => a.line < b.line := by
      intro r hr o ho
      obtain ⟨p, -, rfl⟩ := List.mem_map.mp hr
      exact Workspace.rows_pairwise_of_outline (readingOf_result.mp ho)
    exact List.nodup_iff_count_le_one.mp (Report.arranged_ofReadings hfiles hrows).nodup _

/-- The head of a table of examples with an empty cell, behind a row without any cell. -/
theorem inspectAll_emptyCells_in_head :
    let octets := Text.written true "\r\n" ["|", "Scenario Outline: o", "Examples:", " | n |\t| "]
    let w : Workspace := ⟨⟨[(["a.feature"], .file octets)]⟩, []⟩
    let root := Path.ofNames []
    let paths := [Path.ofNames ["a.feature"]]
    w.tree.WellFormed ∧
      (Corpus.find w Policy.default.nameFilter Policy.default.passedOver root).outcome = .ok paths ∧
      Policy.default.checkCells = true ∧
      ∃ report, (inspectAll w Policy.default.settings root).outcome = .ok report ∧
        report.findings.count (.emptyCell "a.feature" 4 2) = 1 := by
  intro octets w root paths
  have hwellFormed : w.tree.WellFormed := by decide +kernel
  have hstat : w.stat (.ofNames ["a.feature"]) = .ok (.file octets) :=
    Workspace.stat_name rfl rfl (by simp) (by decide) (by decide)
  have hfound : (Corpus.find w Policy.default.nameFilter Policy.default.passedOver root).outcome =
      .ok paths := by
    have hbelow : Corpus.namesBelow w root = [["a.feature"]] := by
      rw [Corpus.namesBelow, Workspace.locate_here]
      decide +kernel
    have hwanted : (Corpus.namesBelow w root).filter (Corpus.isWanted .dotFeature
        Policy.default.passedOver root) = [["a.feature"]] := by
      rw [hbelow]
      decide +kernel
    refine (Corpus.find_of_wanted (Workspace.exists?_here rfl) hwanted ?_).trans ?_
    · intro n hn
      rw [List.mem_singleton.mp hn]
      exact Workspace.isFile?_of_stat (by decide) hstat
    · rw [List.map_singleton, Path.sort, List.mergeSort_singleton]
      rfl
  have hlines : w.lines (.ofNames ["a.feature"]) =
      .ok ["|", "Scenario Outline: o", "Examples:", " | n |\t| "] := by
    rw [Workspace.lines, Workspace.read_eq_ok.mpr ⟨by decide, hstat⟩]
    decide +kernel
  obtain ⟨report, hreport, -, hcells⟩ :=
    inspectAll_emptyCells w Policy.default root paths hwellFormed hfound rfl
  have hcell : w.HasEmptyCell (.ofNames ["a.feature"]) 4 2 :=
    ⟨_, hlines, 3, " | n |\t| ", rfl, rfl,
      Line.hasEmptyCell_iff.mpr ⟨"| n |\t|", ["n", ""], 1, by decide +kernel, rfl, rfl⟩⟩
  have hmem : .emptyCell "a.feature" 4 2 ∈ report.findings :=
    (hcells "a.feature" 4 2).1.mpr ⟨_, List.mem_singleton_self _, by decide +kernel, hcell⟩
  have hpos : 0 < report.findings.count (.emptyCell "a.feature" 4 2) := List.count_pos_iff.mpr hmem
  have hle : report.findings.count (.emptyCell "a.feature" 4 2) ≤ 1 := (hcells "a.feature" 4 2).2
  exact ⟨hwellFormed, hfound, rfl, report, hreport, by omega⟩

end Inspection

end FeatureLint
