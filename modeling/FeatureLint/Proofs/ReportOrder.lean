import FeatureLint.Proofs.ExampleRows
import FeatureLint.Proofs.PathTexts
import FeatureLint.Proofs.ReportParts

/-!
# How a report is laid out

A report has its findings in a fixed order: those on single files in the order of the files, then
the descriptions and the names that are used more than once, both by spelling, then the empty cells
in the order of reading.  Nothing puts the whole list in order; each part comes in order by itself,
for a reason of its own.  `Report.Arranged` says what the order is and what else can be relied on:
each file is accounted for once, and nothing is said twice.

All of this rests on one fact about the readings, that no two files are called the same
(`Report.arranged_ofReadings`).  The files that are found have it.

* `Report.cells_pairwise`: the empty cells by file, line and column.
* `Inspection.inspectAll_arranged`: every report on a corpus is arranged.
-/

namespace FeatureLint

/-! ### Cells -/

/-- Where a cell stands: the number of its file in the corpus, from zero, and its line and column,
from one. -/
structure Spot where
  file : Nat
  line : Nat
  column : Nat

/-- The order of reading: by files, in a file by lines, in a line by columns. -/
def Spot.Before (a b : Spot) : Prop :=
  a.file < b.file ∨ a.file = b.file ∧ (a.line < b.line ∨ a.line = b.line ∧ a.column < b.column)

namespace Finding

def IsAt (files : List String) (f : Finding) (spot : Spot) : Prop :=
  ∃ file, files[spot.file]? = some file ∧ f = .emptyCell file spot.line spot.column

def CellBefore (files : List String) (f g : Finding) : Prop :=
  ∃ a b : Spot, f.IsAt files a ∧ g.IsAt files b ∧ a.Before b

variable {files : List String}

theorem IsAt.unique (hfiles : files.Nodup) {f : Finding} {a b : Spot} (ha : f.IsAt files a)
    (hb : f.IsAt files b) : a = b := by
  obtain ⟨file, hfile, rfl⟩ := ha
  obtain ⟨file', hfile', he⟩ := hb
  obtain ⟨rfl, hline, hcolumn⟩ := emptyCell_inj.mp he
  obtain ⟨hi, -⟩ := List.getElem?_eq_some_iff.mp hfile
  have hindex : a.file = b.file := (List.getElem?_inj hi hfiles).mp (hfile.trans hfile'.symm)
  obtain ⟨i, l, c⟩ := a
  simp_all

theorem not_cellBefore_self (hfiles : files.Nodup) (f : Finding) : ¬ f.CellBefore files f := by
  rintro ⟨a, b, ha, hb, hbefore⟩
  rw [ha.unique hfiles hb, Spot.Before] at hbefore
  omega

end Finding

namespace Reading

theorem emptyCellsOf_pairwise (file : String) (row : Row) :
    (emptyCellsOf file row).Pairwise fun f g =>
      ∃ i j, i < j ∧ f = .emptyCell file row.line i ∧ g = .emptyCell file row.line j := by
  have hcolumns : (row.cells.zipIdx 1).Pairwise fun a b => a.2 < b.2 := by
    rw [← List.pairwise_map, List.zipIdx_map_snd]
    exact List.pairwise_lt_range'
  rw [emptyCellsOf, List.pairwise_filterMap]
  refine hcolumns.imp ?_
  rintro ⟨cell, i⟩ ⟨cell', j⟩ hij f hf g hg
  simp only [Option.ite_none_right_eq_some, Option.some.injEq] at hf hg
  exact ⟨i, j, hij, hf.2.symm, hg.2.symm⟩

theorem emptyCells_pairwise {r : Reading}
    (hrows : ∀ o, r.result = .ok o → o.rows.Pairwise fun a b => a.line < b.line) :
    r.emptyCells.Pairwise fun f g => ∃ l m i j, (l < m ∨ l = m ∧ i < j) ∧
      f = .emptyCell r.file l i ∧ g = .emptyCell r.file m j := by
  rw [emptyCells]
  cases ho : r.outline? with
  | none => exact List.Pairwise.nil
  | some o =>
    refine List.pairwise_flatMap.mpr ⟨fun row _ => ?_, ?_⟩
    · refine (emptyCellsOf_pairwise r.file row).imp ?_
      rintro f g ⟨i, j, hij, rfl, rfl⟩
      exact ⟨row.line, row.line, i, j, Or.inr ⟨rfl, hij⟩, rfl, rfl⟩
    · refine (hrows o (outline?_eq_some.mp ho)).imp ?_
      intro row row' hline f hf g hg
      obtain ⟨i, -, rfl⟩ := mem_emptyCellsOf.mp hf
      obtain ⟨j, -, rfl⟩ := mem_emptyCellsOf.mp hg
      exact ⟨row.line, row'.line, i + 1, j + 1, Or.inl hline, rfl, rfl⟩

end Reading

namespace Report

section Cells

variable {readings : List Reading}
  (hrows : ∀ r ∈ readings, ∀ o, r.result = .ok o → o.rows.Pairwise fun a b => a.line < b.line)

theorem exists_isAt {r : Reading} {n : Nat} (hr : readings[n]? = some r) (line column : Nat) :
    (Finding.emptyCell r.file line column).IsAt (readings.map Reading.file) ⟨n, line, column⟩ :=
  ⟨r.file, by rw [List.getElem?_map, hr]; rfl, rfl⟩

include hrows

/-- **The empty cells come in the order of reading.** -/
theorem cells_pairwise :
    (readings.flatMap Reading.emptyCells).Pairwise
      (Finding.CellBefore (readings.map Reading.file)) := by
  refine List.pairwise_flatMap.mpr ⟨fun r hr => ?_, ?_⟩
  · obtain ⟨n, hn⟩ := List.getElem?_of_mem hr
    refine (Reading.emptyCells_pairwise (hrows r hr)).imp ?_
    rintro f g ⟨l, m, i, j, hbefore, rfl, rfl⟩
    exact ⟨⟨n, l, i⟩, ⟨n, m, j⟩, exists_isAt hn l i, exists_isAt hn m j, Or.inr ⟨rfl, hbefore⟩⟩
  · -- cells of two files: the places of the readings in the list decide
    refine List.pairwise_iff_getElem.mpr fun m n hm hn hmn f hf g hg => ?_
    obtain ⟨o, -, row, -, i, -, rfl⟩ := Reading.mem_emptyCells.mp hf
    obtain ⟨o', -, row', -, j, -, rfl⟩ := Reading.mem_emptyCells.mp hg
    exact ⟨⟨m, row.line, i + 1⟩, ⟨n, row'.line, j + 1⟩,
      exists_isAt (List.getElem?_eq_getElem hm) row.line (i + 1),
      exists_isAt (List.getElem?_eq_getElem hn) row'.line (j + 1), Or.inl hmn⟩

end Cells

/-! ### Arranged reports -/

/-- Four lists as sections of a report: on files in the order of the files, one for a file at most,
on descriptions and on names by spelling, on cells in the order of reading. -/
structure Sections (files : List String) (onFiles : List Finding)
    (features scenarios : List Duplicate) (cells : List Finding) : Prop where
  onFile : ∀ f ∈ onFiles, f.isOnFile = true
  -- no file twice, as the files themselves are distinct
  fileOrder : (onFiles.map Finding.files).Sublist (files.map ([·]))
  featureOrder : features.Pairwise fun d d' => d.key < d'.key
  scenarioOrder : scenarios.Pairwise fun d d' => d.key < d'.key
  onCell : ∀ f ∈ cells, ∃ spot, f.IsAt files spot
  cellOrder : cells.Pairwise (Finding.CellBefore files)

theorem duplicates_nodup (kind : Finding.Kind) {duplicates : List Duplicate}
    (h : duplicates.Pairwise fun d d' => d.key < d'.key) :
    (duplicates.map (Duplicate.finding kind)).Nodup := by
  refine List.pairwise_map.mpr (h.imp fun {d d'} hlt he => ?_)
  have hkey : d.key = d'.key := Option.some.inj (congrArg Finding.key he)
  exact String.lt_irrefl d'.key (hkey ▸ hlt)

theorem kind_of_mem_map {kind : Finding.Kind} {duplicates : List Duplicate} {f : Finding}
    (h : f ∈ duplicates.map (Duplicate.finding kind)) : f.kind = kind := by
  obtain ⟨d, -, rfl⟩ := List.mem_map.mp h
  rfl

/-- **Nothing is said twice** in a report of such sections. -/
theorem Sections.nodup {files : List String} {onFiles : List Finding}
    {features scenarios : List Duplicate} {cells : List Finding} (hfiles : files.Nodup)
    (h : Sections files onFiles features scenarios cells) :
    (onFiles ++ features.map (Duplicate.finding .duplicateFeature)
      ++ scenarios.map (Duplicate.finding .duplicateScenario) ++ cells).Nodup := by
  have honFiles : onFiles.Nodup := by
    have hsingle : (files.map ([·])).Nodup :=
      hfiles.map fun a b he => List.singleton_inj.mp he
    exact (hsingle.sublist h.fileOrder).of_map
  have hcells : cells.Nodup := by
    refine h.cellOrder.imp ?_
    rintro f _ hbefore rfl
    exact Finding.not_cellBefore_self hfiles f hbefore
  have hcell : ∀ f ∈ cells, f.kind = .emptyCell := by
    intro f hf
    obtain ⟨spot, file, -, rfl⟩ := h.onCell f hf
    rfl
  -- the kind of a finding tells the section, so no two sections share one
  refine List.nodup_append.mpr ⟨List.nodup_append.mpr ⟨List.nodup_append.mpr
    ⟨honFiles, duplicates_nodup _ h.featureOrder, ?_⟩, duplicates_nodup _ h.scenarioOrder, ?_⟩,
    hcells, ?_⟩
  · rintro f hf _ hg rfl
    have honFile := h.onFile f hf
    simp [Finding.isOnFile, kind_of_mem_map hg] at honFile
  · rintro f hf _ hg rfl
    rcases List.mem_append.mp hf with hf | hf
    · have honFile := h.onFile f hf
      simp [Finding.isOnFile, kind_of_mem_map hg] at honFile
    · simpa [kind_of_mem_map hf] using kind_of_mem_map hg
  · rintro f hf _ hg rfl
    rcases List.mem_append.mp hf with hf | hf
    · rcases List.mem_append.mp hf with hf | hf
      · have honFile := h.onFile f hf
        simp [Finding.isOnFile, hcell f hg] at honFile
      · simpa [kind_of_mem_map hf] using hcell f hg
    · simpa [kind_of_mem_map hf] using hcell f hg

/-- What can be relied on in a report on some files: the order of its parts, and that each file is
accounted for once. -/
structure Arranged (files : List String) (ceiling : Int) (r : Report) : Prop where
  distinct : files.Nodup
  /-- Each file has a summary or is said to be unreadable, one of the two and once. -/
  once : ∀ file ∈ files, r.summaries.countP (fun summary => summary.path = file) +
    r.findings.countP (fun f => f.kind = .unreadable ∧ f.files = [file]) = 1
  summaries : (r.summaries.map Summary.path).Sublist files
  unreadable : ((r.findings.filter fun f => f.kind = .unreadable).map Finding.files).Sublist
    (files.map ([·]))
  tooMany : ∀ file ∈ files, (∃ f ∈ r.findings, f.kind = .tooManyScenarios ∧ f.files = [file]) ↔
    ∃ summary ∈ r.summaries, summary.path = file ∧ ceiling < summary.count
  sections : ∃ onFiles features scenarios cells,
    r.findings = onFiles ++ features.map (Duplicate.finding .duplicateFeature)
      ++ scenarios.map (Duplicate.finding .duplicateScenario) ++ cells ∧
    Sections files onFiles features scenarios cells
  nodup : r.findings.Nodup
  /-- A file that is named has a summary, unless it is said to be unreadable. -/
  named : ∀ f ∈ r.findings, f.kind ≠ .unreadable → ∀ file ∈ f.files,
    file ∈ r.summaries.map Summary.path
  apart : ∀ f ∈ r.findings, f.kind = .unreadable → ∀ file ∈ f.files,
    file ∉ r.summaries.map Summary.path ∧ ∀ g ∈ r.findings, g ≠ f → file ∉ g.files

section OfReadings

variable {s : Policy} {readings : List Reading}

theorem files_finding?_sublist :
    ((readings.filterMap (Reading.finding? (.int s.ceiling))).map Finding.files).Sublist
      ((readings.map Reading.file).map ([·])) := by
  rw [List.map_map]
  apply map_filterMap_sublist
  intro r _ f hf
  rcases Reading.finding?_eq_some.mp hf with ⟨reason, -, rfl⟩ | ⟨o, -, -, rfl⟩
  · rfl
  · rfl

theorem summaries_sublist :
    ((ofReadings s.settings readings).summaries.map Summary.path).Sublist
      (readings.map Reading.file) := by
  apply map_filterMap_sublist
  intro r _ summary hsummary
  obtain ⟨o, -, rfl⟩ := Reading.summary?_eq_some.mp hsummary
  rfl

theorem count_ofReadings (file : String) :
    (ofReadings s.settings readings).summaries.countP (fun summary => summary.path = file) +
      (ofReadings s.settings readings).findings.countP
        (fun f => f.kind = .unreadable ∧ f.files = [file]) =
      (readings.map Reading.file).count file := by
  have hunreadable : (ofReadings s.settings readings).findings.countP
      (fun f => f.kind = .unreadable ∧ f.files = [file]) =
        (readings.filterMap Reading.unreadable?).countP fun f => f.files = [file] := by
    rw [← filter_unreadable s.settings, List.countP_filter]
    simp [Bool.and_comm]
  rw [hunreadable, ofReadings]
  clear hunreadable
  -- one reading more makes both sides one more, on the left in one of the two counts
  induction readings with
  | nil => rfl
  | cons r readings ih =>
    rw [List.map_cons, List.count_cons, ← ih]
    cases hresult : r.result with
    | error reason =>
      have hsummary : r.summary? = none := by simp [Reading.summary?, Reading.outline?, hresult]
      have hfinding : r.unreadable? = some (.unreadable r.file reason) := by
        simp [Reading.unreadable?, hresult]
      simp [hsummary, hfinding, List.countP_cons, Finding.unreadable]
      omega
    | ok o =>
      have hsummary : r.summary? = some ⟨r.file, o.count⟩ := by
        simp [Reading.summary?, Reading.outline?, hresult]
      have hfinding : r.unreadable? = none := by simp [Reading.unreadable?, hresult]
      simp [hsummary, hfinding, List.countP_cons]
      omega

theorem duplicates_register_pairwise :
    ((register s.settings readings).features.duplicates.Pairwise fun d d' => d.key < d'.key) ∧
      (register s.settings readings).scenarios.duplicates.Pairwise fun d d' => d.key < d'.key := by
  rw [register_features, register_scenarios]
  exact ⟨Index.duplicates_pairwise, Index.duplicates_pairwise⟩

theorem sections_ofReadings
    (hrows : ∀ r ∈ readings, ∀ o, r.result = .ok o → o.rows.Pairwise fun a b => a.line < b.line) :
    Sections (readings.map Reading.file) (readings.filterMap (Reading.finding? (.int s.ceiling)))
      (register s.settings readings).features.duplicates
      (register s.settings readings).scenarios.duplicates
      (if s.checkCells then readings.flatMap Reading.emptyCells else []) where
  onFile := by
    intro f hf
    obtain ⟨r, -, hr⟩ := List.mem_filterMap.mp hf
    exact Reading.isOnFile_of_finding? hr
  fileOrder := files_finding?_sublist
  featureOrder := duplicates_register_pairwise.1
  scenarioOrder := duplicates_register_pairwise.2
  onCell := by
    intro f hf
    split at hf
    · obtain ⟨r, hr, hcell⟩ := List.mem_flatMap.mp hf
      obtain ⟨o, -, row, -, i, -, rfl⟩ := Reading.mem_emptyCells.mp hcell
      obtain ⟨n, hn⟩ := List.getElem?_of_mem hr
      exact ⟨_, exists_isAt hn row.line (i + 1)⟩
    · simp at hf
  cellOrder := by
    split
    · exact cells_pairwise hrows
    · exact List.Pairwise.nil

section Distinct

variable (hfiles : (readings.map Reading.file).Nodup)

include hfiles

theorem not_named_of_unreadable {f : Finding} (hf : f ∈ (ofReadings s.settings readings).findings)
    (hkind : f.kind = .unreadable) {file : String} (hfile : file ∈ f.files) :
    file ∉ (ofReadings s.settings readings).summaries.map Summary.path ∧
      ∀ g ∈ (ofReadings s.settings readings).findings, g ≠ f → file ∉ g.files := by
  obtain ⟨r, hr, reason, hreason, rfl⟩ := (mem_findings.mp hf).of_unreadable hkind
  obtain rfl : file = r.file := List.mem_singleton.mp hfile
  have hreadable : ¬ ∃ r' ∈ readings, r'.file = r.file ∧ ∃ o, r'.result = .ok o := by
    rintro ⟨r', hr', hsame, o, ho⟩
    rw [List.inj_on_of_nodup_map hfiles hr' hr hsame, hreason] at ho
    cases ho
  refine ⟨fun hmem => hreadable (mem_map_summaries.mp hmem), fun g hg hne hmem => ?_⟩
  by_cases hunreadable : g.kind = .unreadable
  · obtain ⟨r', hr', reason', hreason', rfl⟩ := (mem_findings.mp hg).of_unreadable hunreadable
    obtain rfl : r = r' := List.inj_on_of_nodup_map hfiles hr hr' (List.mem_singleton.mp hmem)
    rw [hreason] at hreason'
    cases hreason'
    exact hne rfl
  · exact hreadable (readable_of_mem_files hg hunreadable hmem)

variable
  (hrows : ∀ r ∈ readings, ∀ o, r.result = .ok o → o.rows.Pairwise fun a b => a.line < b.line)

include hrows

/-- **Reports are arranged**, if no two files are called the same. -/
theorem arranged_ofReadings :
    (ofReadings s.settings readings).Arranged (readings.map Reading.file) s.ceiling where
  distinct := hfiles
  once := by
    intro file hfile
    rw [count_ofReadings, List.count_eq_one_of_mem hfiles hfile]
  summaries := summaries_sublist
  unreadable := by
    rw [filter_unreadable, List.map_map]
    apply map_filterMap_sublist
    intro r _ f hf
    obtain ⟨reason, -, rfl⟩ := Reading.unreadable?_eq_some.mp hf
    rfl
  tooMany := by
    intro file _
    constructor
    · rintro ⟨f, hf, hkind, hfile⟩
      obtain ⟨r, hr, o, ho, hcount, rfl⟩ := (mem_findings.mp hf).of_tooMany hkind
      exact ⟨⟨r.file, o.count⟩, mem_summaries.mpr ⟨r, hr, o, ho, rfl⟩,
        List.singleton_inj.mp hfile, hcount⟩
    · rintro ⟨summary, hsummary, rfl, hcount⟩
      obtain ⟨r, hr, o, ho, rfl⟩ := mem_summaries.mp hsummary
      exact ⟨_, mem_findings.mpr (.tooMany hr ho hcount), rfl, rfl⟩
  sections := ⟨_, _, _, _, rfl, sections_ofReadings hrows⟩
  nodup := (sections_ofReadings hrows).nodup hfiles
  named := fun f hf hkind file hfile =>
    mem_map_summaries.mpr (readable_of_mem_files hf hkind hfile)
  apart := fun f hf hkind file hfile => not_named_of_unreadable hfiles hf hkind hfile

end Distinct

end OfReadings

end Report

/-! ### Reports on a corpus -/

theorem Workspace.rows_pairwise_of_outline {w : Workspace} {p : Path} {o : Outline}
    (h : w.outline p = .ok o) : o.rows.Pairwise fun a b => a.line < b.line := by
  rw [outline] at h
  split at h
  · cases h
  · rename_i octets _
    split at h
    · cases h
    · rename_i o' ho'
      cases h
      rw [Outline.ofOctets] at ho'
      cases hcs : Text.Utf8.decodeMarked octets with
      | error flaw => simp [hcs, Except.map] at ho'
      | ok cs =>
        simp only [hcs, Except.map, Except.ok.injEq] at ho'
        rw [← ho']
        exact Outline.rowsFrom_pairwise 1 _

namespace Corpus

variable {w : Workspace} {filter : NameFilter} {passedOver : List Scalar} {root : Path}
  {paths : List Path}

theorem exists_names_of_mem_find (h : (find w filter passedOver root).outcome = .ok paths)
    {p : Path} (hp : p ∈ paths) : ∃ names, p = root / Path.ofNames names := by
  rcases find_outcome h with ⟨-, rfl⟩ | ⟨-, files, hfiles, rfl⟩
  · simp at hp
  · have hmem := (select_sublist hfiles).1.subset (Path.mem_sort.mp hp)
    obtain ⟨names, -, rfl⟩ := List.mem_map.mp hmem
    exact ⟨names, rfl⟩

/-- **The files that are found come in strict order of their parts.** -/
theorem find_pairwise (hw : w.tree.WellFormed)
    (h : (find w filter passedOver root).outcome = .ok paths) :
    paths.Pairwise Path.Before := by
  have hle : paths.Pairwise fun p q => p.le q = true := by
    rcases find_outcome h with ⟨-, rfl⟩ | ⟨-, files, -, rfl⟩
    · exact List.Pairwise.nil
    · exact Path.sort_pairwise files
  have hne : paths.Pairwise (· ≠ ·) := (find_fileId_nodup hw h).of_map
  refine (hle.and hne).imp_of_mem ?_
  rintro p q hp hq ⟨hpq, hpq'⟩
  refine Classical.byContradiction fun hbefore => hpq' ?_
  have hparts : p.parts = q.parts :=
    Path.parts_eq_of_le hpq (Path.le_iff_not_before.mpr hbefore)
  -- both start at the root, so their parts start with the same anchor
  obtain ⟨names, rfl⟩ := exists_names_of_mem_find h hp
  obtain ⟨names', rfl⟩ := exists_names_of_mem_find h hq
  exact Path.eq_of_parts_eq rfl hparts

end Corpus

namespace Inspection

theorem inspectAll_outcome {w : Workspace} (s : Policy) {root : Path} {paths : List Path}
    (hw : w.tree.WellFormed)
    (h : (Corpus.find w s.nameFilter s.passedOver root).outcome = .ok paths) :
    (inspectAll w s.settings root).outcome =
      .ok (.ofReadings s.settings (paths.map (readingOf w root))) := by
  have hsort : Path.sort paths = paths :=
    List.mergeSort_of_pairwise ((Corpus.find_pairwise hw h).imp Path.Before.le)
  have hread : ∀ p ∈ paths, ∀ fault, w.outline p = .error fault → fault.isUnreadable = true :=
    fun p hp fault => Workspace.isUnreadable_of_outline (Corpus.find_holdsNul h hp)
  have hfound : (Corpus.find w s.settings.nameFilter s.settings.passedOver root).outcome =
      .ok paths := h
  simp only [inspectAll, Logged.andThen, hfound, inspect_outcome s root hread, hsort]

/-- **Every report on a corpus is arranged.**  Where the files can be found, in strict order of
their parts, there is a report.  It has a summary for each file that can be read and a finding, with
the reason, for each that cannot, and it is laid out as `Report.Arranged` says. -/
theorem inspectAll_arranged (w : Workspace) (s : Policy) (root : Path) (paths : List Path)
    (wellFormed : w.tree.WellFormed)
    (found : (Corpus.find w s.nameFilter s.passedOver root).outcome = .ok paths) :
    ∃ report, (inspectAll w s.settings root).outcome = .ok report ∧
      paths.Pairwise Path.Before ∧
      (∀ p ∈ paths, ∀ o, w.outline p = .ok o → ⟨fileId root p, o.count⟩ ∈ report.summaries) ∧
      (∀ p ∈ paths, ∀ fault, w.outline p = .error fault →
        .unreadable (fileId root p) fault.message ∈ report.findings) ∧
      report.Arranged (paths.map (fileId root)) s.ceiling := by
  have hfiles : (paths.map (readingOf w root)).map Reading.file = paths.map (fileId root) := by
    rw [List.map_map]
    rfl
  refine ⟨_, inspectAll_outcome s wellFormed found, Corpus.find_pairwise wellFormed found, ?_, ?_,
    ?_⟩
  · intro p hp o ho
    exact Report.mem_summaries.mpr
      ⟨readingOf w root p, List.mem_map_of_mem hp, o, readingOf_result.mpr ho, rfl⟩
  · intro p hp fault hfault
    have hreason : (readingOf w root p).result = .error fault.message := by
      rw [readingOf, hfault]
      rfl
    exact Report.mem_findings.mpr (.unreadable (List.mem_map_of_mem hp) hreason)
  · rw [← hfiles]
    refine Report.arranged_ofReadings ?_ ?_
    · rw [hfiles]
      exact Corpus.find_fileId_nodup wellFormed found
    · intro r hr o ho
      obtain ⟨p, -, rfl⟩ := List.mem_map.mp hr
      exact Workspace.rows_pairwise_of_outline (readingOf_result.mp ho)

/-- A file that can be read, a file that cannot, and one that is passed over. -/
theorem inspectAll_arranged_two_files :
    let w : Workspace := ⟨⟨[(["b.feature"], .file [0xff]), (["notes"], .file []),
      (["a.feature"], .file (Text.Utf8.encode "Scenario: s\n| |".toList))]⟩, []⟩
    let root := Path.ofNames []
    let paths : List Path := [.ofNames ["a.feature"], .ofNames ["b.feature"]]
    w.tree.WellFormed ∧
      (Corpus.find w Policy.default.nameFilter Policy.default.passedOver root).outcome = .ok paths ∧
      ∃ report, (inspectAll w Policy.default.settings root).outcome = .ok report ∧
        paths.Pairwise Path.Before ∧
        (∀ p ∈ paths, ∀ o, w.outline p = .ok o → ⟨fileId root p, o.count⟩ ∈ report.summaries) ∧
        (∀ p ∈ paths, ∀ fault, w.outline p = .error fault →
          .unreadable (fileId root p) fault.message ∈ report.findings) ∧
        report.Arranged ["a.feature", "b.feature"] 100 := by
  intro w root paths
  have hwellFormed : w.tree.WellFormed := by decide +kernel
  have hwanted : (Corpus.namesBelow w root).filter (Corpus.isWanted .dotFeature
      Policy.default.passedOver root) = [["b.feature"], ["a.feature"]] := by
    rw [Corpus.namesBelow, Workspace.locate_here]
    decide +kernel
  have hstat : w.stat (.ofNames ["a.feature"]) =
        .ok (.file (Text.Utf8.encode "Scenario: s\n| |".toList)) ∧
      w.stat (.ofNames ["b.feature"]) = .ok (.file [0xff]) :=
    ⟨Workspace.stat_name rfl rfl (by simp) (by decide) (by decide),
      Workspace.stat_name rfl rfl (by simp) (by decide) (by decide)⟩
  have hfiles : ∀ names ∈ [["b.feature"], ["a.feature"]],
      w.isFile? (root / .ofNames names) = .ok true := by
    intro names hnames
    rcases List.mem_cons.mp hnames with rfl | hnames
    · exact Workspace.isFile?_of_stat (by decide) hstat.2
    · rw [List.mem_singleton.mp hnames]
      exact Workspace.isFile?_of_stat (by decide) hstat.1
  have hspelled : ∀ p ∈ paths.reverse, p.Spelled := by
    have hpaths : paths.reverse = ["b.feature", "a.feature"].map .ofString := by decide +kernel
    rw [hpaths]
    exact fun p => Path.spelled_of_mem_map
  have hsort : Path.sort paths.reverse = paths := by
    rw [Path.sort_eq_of_perm hspelled paths.reverse_perm]
    exact List.mergeSort_of_pairwise (by decide +kernel)
  have hfound : (Corpus.find w Policy.default.nameFilter Policy.default.passedOver root).outcome =
      .ok paths := by
    refine (Corpus.find_of_wanted (Workspace.exists?_here rfl) hwanted hfiles).trans ?_
    exact congrArg Except.ok hsort
  have hcalled : paths.map (fileId root) = ["a.feature", "b.feature"] := by decide +kernel
  obtain ⟨report, hreport, hpairwise, hsummaries, hfindings, harranged⟩ :=
    inspectAll_arranged w Policy.default root paths hwellFormed hfound
  rw [hcalled] at harranged
  exact ⟨hwellFormed, hfound, report, hreport, hpairwise, hsummaries, hfindings, harranged⟩

end Inspection

end FeatureLint
