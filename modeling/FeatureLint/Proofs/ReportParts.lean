import FeatureLint.Proofs.CleanCorpus
import FeatureLint.Proofs.Isolation

/-!
# The parts of a report

A report is put together from four lists of findings, each made in its own way.  This file says of
each part what is in it and why: a finding on a file by what became of reading the file
(`Reading.finding?_eq_some`), a finding on a cell by the place of the cell
(`Reading.mem_emptyCells`), and a finding on a name by the files that use it, all of which could be
read (`Report.readable_of_mem_files`).  What kind a finding is tells the part that it comes from
(`Report.Origin`), and so do the files that it names: a file that could not be read is named by
nothing but the finding that says so.
-/

namespace FeatureLint

namespace Finding

def tooMany (file : String) (count : Nat) (ceiling : Value) : Finding :=
  { kind := .tooManyScenarios, files := [file], detail := some (Reading.excess count ceiling) }

def emptyCell (file : String) (line column : Nat) : Finding :=
  { kind := .emptyCell, files := [file], line := some line, column := some column }

theorem emptyCell_inj {file file' : String} {line line' column column' : Nat} :
    emptyCell file line column = emptyCell file' line' column' ↔
      file = file' ∧ line = line' ∧ column = column' := by
  simp only [emptyCell, Finding.mk.injEq, List.cons.injEq, Option.some.injEq, Int.natCast_inj,
    and_true, true_and]

end Finding

/-! ### One reading -/

namespace Reading

variable {r : Reading} {f : Finding}

theorem outline?_eq_some {o : Outline} : r.outline? = some o ↔ r.result = .ok o := by
  rw [outline?]
  cases r.result <;> simp

theorem summary?_eq_some {summary : Summary} :
    r.summary? = some summary ↔ ∃ o, r.result = .ok o ∧ summary = ⟨r.file, o.count⟩ := by
  rw [summary?, Option.map_eq_some_iff]
  simp only [outline?_eq_some, eq_comm (a := summary)]

theorem finding?_eq_some {ceiling : Int} :
    r.finding? (.int ceiling) = some f ↔
      (∃ reason, r.result = .error reason ∧ f = .unreadable r.file reason) ∨
        ∃ o, r.result = .ok o ∧ ceiling < o.count ∧ f = .tooMany r.file o.count (.int ceiling) := by
  rw [finding?]
  cases hresult : r.result with
  | error reason => simp [Finding.unreadable, eq_comm]
  | ok o =>
    by_cases hexceeds : exceeds o.count (.int ceiling) = true
    · simp [hexceeds, (exceeds_int _ _).mp hexceeds, Finding.tooMany, eq_comm]
    · simp [hexceeds, mt (exceeds_int _ _).mpr hexceeds]

def unreadable? (r : Reading) : Option Finding :=
  match r.result with
  | .error reason => some (.unreadable r.file reason)
  | .ok _ => none

theorem unreadable?_eq_some :
    r.unreadable? = some f ↔
      ∃ reason, r.result = .error reason ∧ f = .unreadable r.file reason := by
  rw [unreadable?]
  cases r.result <;> simp [eq_comm]

theorem filter_finding? (ceiling : Value) (r : Reading) :
    (r.finding? ceiling).filter (fun f => f.kind = .unreadable) = r.unreadable? := by
  rw [finding?, unreadable?]
  cases r.result with
  | error reason => rfl
  | ok o => by_cases hexceeds : exceeds o.count ceiling = true <;> simp [hexceeds]

theorem mem_emptyCellsOf {file : String} {row : Row} :
    f ∈ emptyCellsOf file row ↔
      ∃ i, row.cells[i]? = some "" ∧ f = .emptyCell file row.line (i + 1) := by
  simp only [emptyCellsOf, List.mem_filterMap, Prod.exists,
    List.mk_mem_zipIdx_iff_le_and_getElem?_sub]
  constructor
  · rintro ⟨cell, column, ⟨hcolumn, hcell⟩, hf⟩
    by_cases hempty : cell = ""
    · subst hempty
      refine ⟨column - 1, hcell, ?_⟩
      simp only [if_true, Option.some.injEq] at hf
      rw [Nat.sub_add_cancel hcolumn, ← hf]
      rfl
    · simp [hempty] at hf
  · rintro ⟨i, hcell, rfl⟩
    exact ⟨"", i + 1, ⟨by omega, by simpa using hcell⟩, rfl⟩

theorem mem_emptyCells :
    f ∈ r.emptyCells ↔ ∃ o, r.result = .ok o ∧ ∃ row ∈ o.rows, ∃ i, row.cells[i]? = some "" ∧
      f = .emptyCell r.file row.line (i + 1) := by
  simp only [← outline?_eq_some]
  rw [emptyCells]
  cases r.outline? with
  | none => simp
  | some o => simp [List.mem_flatMap, mem_emptyCellsOf]

theorem readable_of_mem_descriptions {d : String} (h : d ∈ r.descriptions) :
    ∃ o, r.result = .ok o := by
  rw [descriptions] at h
  split at h
  · rename_i o ho
    exact ⟨o, outline?_eq_some.mp ho⟩
  · simp at h

theorem readable_of_mem_names {n : String} (h : n ∈ r.names) : ∃ o, r.result = .ok o := by
  rw [names] at h
  split at h
  · rename_i o ho
    exact ⟨o, outline?_eq_some.mp ho⟩
  · simp at h

end Reading

theorem Workspace.outline_of_stat {w : Workspace} {p : Path} {octets : List UInt8} {o : Outline}
    (hp : p.holdsNul = false) (hstat : w.stat p = .ok (.file octets))
    (ho : Outline.ofOctets octets = .ok o) : w.outline p = .ok o := by
  simp only [outline, read_eq_ok.mpr ⟨hp, hstat⟩, ho]

theorem Workspace.outline_of_stat_error {w : Workspace} {p : Path} {cause : SystemCause}
    (hp : p.holdsNul = false) (hstat : w.stat p = .error cause) :
    w.outline p = .error (.system cause p) := by
  simp only [outline, read, hp, hstat, Bool.false_eq_true, if_false]

/-! ### The whole report -/

theorem Index.exists_use_of_mem_files {form : String → String} {withinFile : Bool}
    {uses : List Use} {d : Duplicate} (hd : d ∈ (ofUses form withinFile uses).duplicates)
    {file : String} (hfile : file ∈ d.files) : ∃ u ∈ uses, u.file = file := by
  obtain ⟨k, e, he, -, rfl⟩ := mem_duplicates.mp hd
  obtain ⟨u, hu, rfl⟩ := (Entry.mem_files he).mp hfile
  exact ⟨u, (mem_usesOf.mp hu).1, rfl⟩

namespace Report

variable {s : Policy} {readings : List Reading} {f : Finding}

/-- Why a finding is in a report, kind by kind. -/
inductive Origin (s : Policy) (readings : List Reading) : Finding → Prop
  | unreadable {r : Reading} {reason : String} : r ∈ readings → r.result = .error reason →
      Origin s readings (.unreadable r.file reason)
  | tooMany {r : Reading} {o : Outline} : r ∈ readings → r.result = .ok o → s.ceiling < o.count →
      Origin s readings (.tooMany r.file o.count (.int s.ceiling))
  | feature {d : Duplicate} : d ∈ (register s.settings readings).features.duplicates →
      Origin s readings (d.finding .duplicateFeature)
  | scenario {d : Duplicate} : d ∈ (register s.settings readings).scenarios.duplicates →
      Origin s readings (d.finding .duplicateScenario)
  | emptyCell {r : Reading} {o : Outline} {row : Row} {i : Nat} : s.checkCells = true →
      r ∈ readings → r.result = .ok o → row ∈ o.rows → row.cells[i]? = some "" →
      Origin s readings (.emptyCell r.file row.line (i + 1))

/-- **What is in a report.** -/
theorem mem_findings : f ∈ (ofReadings s.settings readings).findings ↔ Origin s readings f := by
  have hcells : s.settings.checkCells.isTruthy = s.checkCells := rfl
  have hceiling : s.settings.ceiling = .int s.ceiling := rfl
  rw [ofReadings]
  simp only [List.mem_append, List.mem_filterMap, List.mem_map, hcells, hceiling,
    Reading.finding?_eq_some]
  constructor
  · rintro (((⟨r, hr, ⟨reason, hreason, rfl⟩ | ⟨o, ho, hcount, rfl⟩⟩ | ⟨d, hd, rfl⟩) |
      ⟨d, hd, rfl⟩) | hcell)
    · exact .unreadable hr hreason
    · exact .tooMany hr ho hcount
    · exact .feature hd
    · exact .scenario hd
    · split at hcell
      · rename_i hcheck
        obtain ⟨r, hr, hcell⟩ := List.mem_flatMap.mp hcell
        obtain ⟨o, ho, row, hrow, i, hi, rfl⟩ := Reading.mem_emptyCells.mp hcell
        exact .emptyCell hcheck hr ho hrow hi
      · simp at hcell
  · intro horigin
    cases horigin with
    | unreadable hr hreason =>
      exact Or.inl (Or.inl (Or.inl ⟨_, hr, Or.inl ⟨_, hreason, rfl⟩⟩))
    | tooMany hr ho hcount =>
      exact Or.inl (Or.inl (Or.inl ⟨_, hr, Or.inr ⟨_, ho, hcount, rfl⟩⟩))
    | feature hd => exact Or.inl (Or.inl (Or.inr ⟨_, hd, rfl⟩))
    | scenario hd => exact Or.inl (Or.inr ⟨_, hd, rfl⟩)
    | emptyCell hcheck hr ho hrow hi =>
      refine Or.inr ?_
      rw [if_pos hcheck]
      exact List.mem_flatMap.mpr ⟨_, hr, Reading.mem_emptyCells.mpr ⟨_, ho, _, hrow, _, hi, rfl⟩⟩

/-! The kind of a finding tells where it comes from. -/

theorem Origin.of_unreadable (h : Origin s readings f) (hkind : f.kind = .unreadable) :
    ∃ r ∈ readings, ∃ reason, r.result = .error reason ∧ f = .unreadable r.file reason := by
  cases h with
  | unreadable hr hreason => exact ⟨_, hr, _, hreason, rfl⟩
  | tooMany | feature | scenario | emptyCell => cases hkind

theorem Origin.of_tooMany (h : Origin s readings f) (hkind : f.kind = .tooManyScenarios) :
    ∃ r ∈ readings, ∃ o, r.result = .ok o ∧ s.ceiling < o.count ∧
      f = .tooMany r.file o.count (.int s.ceiling) := by
  cases h with
  | tooMany hr ho hcount => exact ⟨_, hr, _, ho, hcount, rfl⟩
  | unreadable | feature | scenario | emptyCell => cases hkind

theorem Origin.of_feature (h : Origin s readings f) (hkind : f.kind = .duplicateFeature) :
    ∃ d ∈ (register s.settings readings).features.duplicates,
      f = d.finding .duplicateFeature := by
  cases h with
  | feature hd => exact ⟨_, hd, rfl⟩
  | unreadable | tooMany | scenario | emptyCell => cases hkind

theorem filter_unreadable (s : Settings) (readings : List Reading) :
    (ofReadings s readings).findings.filter (fun f => f.kind = .unreadable) =
      readings.filterMap Reading.unreadable? := by
  have hrest : (afterFiles s readings).filter (fun f => f.kind = .unreadable) = [] := by
    rw [List.filter_eq_nil_iff]
    intro f hf hkind
    have honFile := isOnFile_of_mem_afterFiles hf
    simp_all [Finding.isOnFile]
  rw [ofReadings_eq, List.filter_append, hrest, List.append_nil, List.filter_filterMap]
  simp only [Reading.filter_finding?]

theorem mem_summaries {s : Settings} {summary : Summary} :
    summary ∈ (ofReadings s readings).summaries ↔
      ∃ r ∈ readings, ∃ o, r.result = .ok o ∧ summary = ⟨r.file, o.count⟩ := by
  rw [ofReadings, List.mem_filterMap]
  simp only [Reading.summary?_eq_some]

theorem mem_map_summaries {s : Settings} {file : String} :
    file ∈ (ofReadings s readings).summaries.map Summary.path ↔
      ∃ r ∈ readings, r.file = file ∧ ∃ o, r.result = .ok o := by
  simp only [List.mem_map, mem_summaries]
  constructor
  · rintro ⟨_, ⟨r, hr, o, ho, rfl⟩, rfl⟩
    exact ⟨r, hr, rfl, o, ho⟩
  · rintro ⟨r, hr, rfl, o, ho⟩
    exact ⟨_, ⟨r, hr, o, ho, rfl⟩, rfl⟩

theorem readable_of_mem_duplicates {form : String → String} {withinFile : Bool}
    {names : Reading → List String} (hnames : ∀ r n, n ∈ names r → ∃ o, r.result = .ok o)
    {d : Duplicate} (hd : d ∈ (Index.ofUses form withinFile
      (readings.flatMap fun r => (names r).map (Use.mk · r.file))).duplicates)
    {file : String} (hfile : file ∈ d.files) :
    ∃ r ∈ readings, r.file = file ∧ ∃ o, r.result = .ok o := by
  obtain ⟨u, hu, rfl⟩ := Index.exists_use_of_mem_files hd hfile
  obtain ⟨r, hr, hkey, hused⟩ := mem_usesOfFiles.mp hu
  exact ⟨r, hr, hused.symm, hnames r u.key hkey⟩

/-- **A file that is named could be read**, unless the finding says that it could not. -/
theorem readable_of_mem_files (hf : f ∈ (ofReadings s.settings readings).findings)
    (hkind : f.kind ≠ .unreadable) {file : String} (hfile : file ∈ f.files) :
    ∃ r ∈ readings, r.file = file ∧ ∃ o, r.result = .ok o := by
  cases mem_findings.mp hf with
  | unreadable => exact absurd rfl hkind
  | tooMany hr ho _ => exact ⟨_, hr, (List.mem_singleton.mp hfile).symm, _, ho⟩
  | feature hd =>
    rw [register_features] at hd
    exact readable_of_mem_duplicates (fun _ _ => Reading.readable_of_mem_descriptions) hd hfile
  | scenario hd =>
    rw [register_scenarios] at hd
    exact readable_of_mem_duplicates (fun _ _ => Reading.readable_of_mem_names) hd hfile
  | emptyCell _ hr ho _ _ => exact ⟨_, hr, (List.mem_singleton.mp hfile).symm, _, ho⟩

end Report

/-! ### Section by section -/

def Reading.namesOf (r : Reading) : Finding.Kind → List String
  | .duplicateFeature => r.descriptions
  | .duplicateScenario => r.names
  | _ => []

namespace Report

variable {s : Policy} {readings : List Reading}

def indexOf (s : Policy) (readings : List Reading) (kind : Finding.Kind) : Index :=
  .ofUses s.form (kind = .duplicateScenario && s.withinFile)
    (readings.flatMap fun r => (r.namesOf kind).map (Use.mk · r.file))

def cells (s : Policy) (readings : List Reading) : List Finding :=
  if s.checkCells then readings.flatMap Reading.emptyCells else []

theorem features_eq_indexOf :
    (register s.settings readings).features = indexOf s readings .duplicateFeature :=
  register_features s.settings readings

theorem scenarios_eq_indexOf :
    (register s.settings readings).scenarios = indexOf s readings .duplicateScenario :=
  register_scenarios s.settings readings

theorem findings_eq :
    (ofReadings s.settings readings).findings =
      readings.filterMap (Reading.finding? (.int s.ceiling))
        ++ (indexOf s readings .duplicateFeature).duplicates.map
          (Duplicate.finding .duplicateFeature)
        ++ (indexOf s readings .duplicateScenario).duplicates.map
          (Duplicate.finding .duplicateScenario)
        ++ cells s readings := by
  rw [ofReadings, features_eq_indexOf, scenarios_eq_indexOf]
  rfl

end Report

end FeatureLint
