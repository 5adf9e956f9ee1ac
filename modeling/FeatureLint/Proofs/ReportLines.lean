import FeatureLint.Proofs.Completion
import FeatureLint.Proofs.GrowingCorpus
import FeatureLint.Proofs.OneLineTexts

/-!
# The lines of a report

A report is printed line by line, one line for each summary and one for each finding, and whoever
reads it reads it by lines.  So nothing that a line shows may have a line feed in it.  The texts
that come from the files do not: names and descriptions are stretches of lines, a reported name is
one of them, and a reason is on one line whatever it tells (`OneLineTexts`).  What is left are the
names of the files themselves, and these are as the file system has them.

* `Report.oneLine_key_and_detail`: what a finding shows apart from files is on one line.
* `Inspection.inspect_lines`: **the lines of a report are those of its summaries and findings**, if
  the paths are on one line each.
-/

namespace FeatureLint

open Text

/-! ### The line of a finding -/

namespace Finding

variable {f : Finding}

theorem oneLine_shown {α : Type} [ToString α] {field : Option α}
    (h : ∀ a ∈ field, OneLine (toString a)) : OneLine (shown field) := by
  cases field with
  | none => exact (by decide : OneLine "None")
  | some a => exact h a rfl

theorem oneLine_label (k : Kind) : OneLine k.label := by
  cases k <;> decide +kernel

theorem oneLine_render (hfiles : ∀ file ∈ f.files, OneLine file) (hkey : ∀ k ∈ f.key, OneLine k)
    (hdetail : ∀ d ∈ f.detail, OneLine d) : OneLine f.render := by
  have hfiles : OneLine (join ", " f.files) := oneLine_join (by decide) hfiles
  have hkey : OneLine (shown f.key) := oneLine_shown hkey
  have hdetail : OneLine (shown f.detail) := oneLine_shown hdetail
  have hline : OneLine (shown f.line) := oneLine_shown fun n _ => oneLine_int n
  have hcolumn : OneLine (shown f.column) := oneLine_shown fun n _ => oneLine_int n
  have hmessage : OneLine f.message := by
    rw [message]
    split <;> simp only [oneLine_append, hfiles, hkey, hdetail, hline, hcolumn] <;> decide +kernel
  rw [render, oneLine_append, oneLine_append]
  exact ⟨⟨oneLine_label f.kind, by decide⟩, hmessage⟩

end Finding

theorem Summary.oneLine_render {summary : Summary} (h : OneLine summary.path) :
    OneLine summary.render := by
  rw [render, oneLine_append, oneLine_append, oneLine_append]
  exact ⟨⟨⟨h, by decide +kernel⟩, oneLine_int summary.count⟩, by decide⟩

/-! ### What findings show -/

theorem Index.exists_use_of_mem_duplicates {form : String → String} {withinFile : Bool}
    {uses : List Use} {d : Duplicate} (hd : d ∈ (ofUses form withinFile uses).duplicates) :
    ∃ u ∈ uses, u.key = d.key := by
  obtain ⟨k, e, he, -, rfl⟩ := mem_duplicates.mp hd
  obtain ⟨u, hu, hspelling⟩ := Option.map_eq_some_iff.mp (Entry.ofUses_eq_some.mp he).1
  exact ⟨u, (mem_usesOf.mp (List.mem_of_mem_head? hu)).1, hspelling⟩

namespace Report

variable {w : Workspace} {s : Policy} {root : Path} {paths : List Path} {f : Finding}

theorem oneLine_namesOf (w : Workspace) (root p : Path) (kind : Finding.Kind) :
    ∀ n ∈ (Inspection.readingOf w root p).namesOf kind, OneLine n := by
  intro n hn
  cases kind with
  | duplicateFeature =>
    obtain ⟨o, ho, hn⟩ := Inspection.mem_descriptions_readingOf.mp hn
    exact (Workspace.oneLine_of_outline ho).1 n hn
  | duplicateScenario =>
    obtain ⟨o, ho, hn⟩ := Inspection.mem_names_readingOf.mp hn
    exact (Workspace.oneLine_of_outline ho).2 n hn
  | unreadable | tooManyScenarios | emptyCell => simp [Reading.namesOf] at hn

/-- **What a finding shows apart from files is on one line**, whatever the paths are. -/
theorem oneLine_key_and_detail
    (hread : ∀ p ∈ paths, ∀ fault, w.outline p = .error fault → fault.isUnreadable = true)
    (hf : f ∈ (ofReadings s.settings (paths.map (Inspection.readingOf w root))).findings) :
    (∀ k ∈ f.key, OneLine k) ∧ ∀ d ∈ f.detail, OneLine d := by
  by_cases hkind : f.kind.IsOnName
  · obtain ⟨d, hd, hfinding⟩ := (mem_findings_onName hkind).mp hf
    obtain ⟨u, hu, hkey⟩ := Index.exists_use_of_mem_duplicates hd
    obtain ⟨r, hr, hu⟩ := List.mem_flatMap.mp hu
    obtain ⟨p, -, rfl⟩ := List.mem_map.mp hr
    obtain ⟨n, hn, rfl⟩ := List.mem_map.mp hu
    have hd : OneLine d.key := hkey ▸ oneLine_namesOf w root p f.kind n hn
    rw [hfinding]
    exact ⟨by simpa [Duplicate.finding] using hd, by simp [Duplicate.finding]⟩
  · cases mem_findings.mp hf with
    | @unreadable r reason hr hreason =>
      obtain ⟨p, hp, rfl⟩ := List.mem_map.mp hr
      obtain ⟨fault, hfault, rfl⟩ := Inspection.readingOf_error.mp hreason
      have hmessage : OneLine fault.message := Fault.oneLine_message (hread p hp fault hfault)
      exact ⟨by simp [Finding.unreadable], by simpa [Finding.unreadable] using hmessage⟩
    | @tooMany r o hr ho hcount =>
      have hexcess : OneLine (Reading.excess o.count (.int s.ceiling)) := by
        rw [Reading.excess, oneLine_append, oneLine_append, oneLine_append]
        exact ⟨⟨⟨by decide, oneLine_nat o.count⟩, by decide +kernel⟩, oneLine_int s.ceiling⟩
      exact ⟨by simp [Finding.tooMany], by simpa [Finding.tooMany] using hexcess⟩
    | feature => exact absurd (.inl rfl) hkind
    | scenario => exact absurd (.inr rfl) hkind
    | emptyCell => simp [Finding.emptyCell]

theorem exists_path_of_mem_files
    (hf : f ∈ (ofReadings s.settings (paths.map (Inspection.readingOf w root))).findings)
    {file : String} (hfile : file ∈ f.files) : ∃ p ∈ paths, fileId root p = file := by
  have hreading : ∃ r ∈ paths.map (Inspection.readingOf w root), r.file = file := by
    by_cases hkind : f.kind = .unreadable
    · obtain ⟨r, hr, reason, -, rfl⟩ := (mem_findings.mp hf).of_unreadable hkind
      exact ⟨r, hr, (List.mem_singleton.mp hfile).symm⟩
    · obtain ⟨r, hr, hfile, -⟩ := readable_of_mem_files hf hkind hfile
      exact ⟨r, hr, hfile⟩
  obtain ⟨r, hr, rfl⟩ := hreading
  obtain ⟨p, hp, rfl⟩ := List.mem_map.mp hr
  exact ⟨p, hp, rfl⟩

/-- **Each line of a report is one line**, if the paths are on one line each. -/
theorem oneLine_of_mem_lines (hpaths : ∀ p ∈ paths, OneLine p.text)
    (hread : ∀ p ∈ paths, ∀ fault, w.outline p = .error fault → fault.isUnreadable = true) :
    ∀ line ∈ (ofReadings s.settings (paths.map (Inspection.readingOf w root))).lines,
      OneLine line := by
  intro line hline
  rcases List.mem_append.mp hline with hline | hline
  · obtain ⟨summary, hsummary, rfl⟩ := List.mem_map.mp hline
    obtain ⟨r, hr, o, -, rfl⟩ := mem_summaries.mp hsummary
    obtain ⟨p, hp, rfl⟩ := List.mem_map.mp hr
    exact Summary.oneLine_render (oneLine_fileId (hpaths p hp))
  · obtain ⟨f, hf, rfl⟩ := List.mem_map.mp hline
    obtain ⟨hkey, hdetail⟩ := oneLine_key_and_detail hread hf
    refine Finding.oneLine_render (fun file hfile => ?_) hkey hdetail
    obtain ⟨p, hp, rfl⟩ := exists_path_of_mem_files hf hfile
    exact oneLine_fileId (hpaths p hp)

end Report

namespace Inspection

variable {w : Workspace} {s : Policy} {root : Path} {paths : List Path} {report : Report}

theorem isUnreadable_of_inspect (h : (inspect w s.settings root paths).outcome = .ok report) :
    ∀ p ∈ paths, ∀ fault, w.outline p = .error fault → fault.isUnreadable = true := by
  intro p hp fault
  refine Workspace.isUnreadable_of_outline (Bool.eq_false_iff.mpr fun hnul => ?_)
  rw [inspect_nul s root ⟨p, hp, hnul⟩] at h
  cases h

theorem inspect_of_inspectAll
    (hfind : (Corpus.find w s.nameFilter s.passedOver root).outcome = .ok paths)
    (h : (inspectAll w s.settings root).outcome = .ok report) :
    (inspect w s.settings root paths).outcome = .ok report := by
  have hfound : (Corpus.find w s.settings.nameFilter s.settings.passedOver root).outcome =
      .ok paths := hfind
  simpa only [inspectAll, Logged.andThen, hfound] using h

/-- **Files do not forge lines of a report.**  Whatever the files hold, the descriptions and names
that are read in them, the names that are reported and the reasons why files cannot be read are on
one line each.  So if the paths are too, whether they were given or found, the text of the report
falls into one line for each summary and one for each finding, in their order. -/
theorem inspect_lines (w : Workspace) (s : Policy) (root : Path) (paths : List Path)
    (report : Report)
    (told : (inspect w s.settings root paths).outcome = .ok report ∨
      (Corpus.find w s.nameFilter s.passedOver root).outcome = .ok paths ∧
        (inspectAll w s.settings root).outcome = .ok report) :
    (∀ p o, w.outline p = .ok o → (∀ d ∈ o.feature, OneLine d) ∧ ∀ n ∈ o.names, OneLine n) ∧
      (∀ f ∈ report.findings, (∀ k ∈ f.key, OneLine k) ∧ ∀ d ∈ f.detail, OneLine d) ∧
      ((∀ p ∈ paths, OneLine p.text) → report.summaries ≠ [] ∨ report.findings ≠ [] →
        Text.lines report.render.toList =
            report.summaries.map Summary.render ++ report.findings.map Finding.render ∧
          (Text.lines report.render.toList).length =
            report.summaries.length + report.findings.length) := by
  have htold : (inspect w s.settings root paths).outcome = .ok report :=
    told.elim id fun h => inspect_of_inspectAll h.1 h.2
  have hread := isUnreadable_of_inspect htold
  have hsorted : ∀ p ∈ Path.sort paths, ∀ fault, w.outline p = .error fault →
      fault.isUnreadable = true := fun p hp => hread p (Path.mem_sort.mp hp)
  rw [inspect_outcome s root hread, Except.ok.injEq] at htold
  subst htold
  refine ⟨fun _ _ => Workspace.oneLine_of_outline,
    fun _ => Report.oneLine_key_and_detail hsorted, fun hpaths hsome => ?_⟩
  set report := Report.ofReadings s.settings ((Path.sort paths).map (readingOf w root))
  have hlines : ∀ line ∈ report.lines, OneLine line :=
    Report.oneLine_of_mem_lines (fun p hp => hpaths p (Path.mem_sort.mp hp)) hsorted
  have hne : report.lines ≠ [] := by
    simpa [Report.lines, or_iff_not_imp_left] using hsome
  have hsplit : Text.lines report.render.toList = report.lines := lines_join hlines hne
  refine ⟨hsplit, ?_⟩
  rw [hsplit, Report.lines, List.length_append, List.length_map, List.length_map]

/-- Two scenarios on lines that end in carriage returns, with a vertical tab in their name, and a
path with a carriage return that leads to nothing. -/
theorem inspect_lines_other_separators :
    let w : Workspace :=
      ⟨⟨[(["a"], .file (Text.Utf8.encode "Scenario: s\x0bt\rScenario: s\x0bt".toList))]⟩, []⟩
    let root := Path.ofNames []
    let paths : List Path := [.ofNames ["a"], .ofNames ["b\r"]]
    let report : Report :=
      { summaries := [⟨"a", 2⟩]
        findings :=
          [.unreadable "b\r" "[Errno 2] No such file or directory: 'b\\r'",
            Duplicate.finding .duplicateScenario ⟨"s\x0bt", ["a"]⟩] }
    (inspect w Policy.default.settings root paths).outcome = .ok report ∧
      (∀ p ∈ paths, OneLine p.text) ∧
      Text.lines report.render.toList =
        ["a (Total Scenarios: 2)",
          "FileReadError: Could not read feature file b\r: "
            ++ "[Errno 2] No such file or directory: 'b\\r'",
          "DuplicateScenario: Duplicate scenario name 's\x0bt' in: a"] := by
  intro w root paths report
  have hnul : ∀ p ∈ paths, p.holdsNul = false := by decide
  have hread : ∀ p ∈ paths, ∀ fault, w.outline p = .error fault → fault.isUnreadable = true :=
    fun p hp fault => Workspace.isUnreadable_of_outline (hnul p hp)
  have hmissing : w.outline (.ofNames ["b\r"]) = .error (.system .missing (.ofNames ["b\r"])) := by
    have hlocate : w.locate (.ofNames ["b\r"]) = .ok ["b\r"] := by
      rw [Workspace.locate, Workspace.locateTo, if_neg (by decide +kernel)]
      exact Tree.walk_free rfl (by decide) (by decide) rfl
    have hstat : w.stat (.ofNames ["b\r"]) = .error .missing := by
      rw [Workspace.stat, hlocate]
      rfl
    exact Workspace.outline_of_stat_error (by decide) hstat
  have houtline : w.outline (.ofNames ["a"]) = .ok ⟨none, ["s\x0bt", "s\x0bt"], 2, [], []⟩ := by
    have hoctets : Outline.ofOctets (Text.Utf8.encode "Scenario: s\x0bt\rScenario: s\x0bt".toList) =
        .ok ⟨none, ["s\x0bt", "s\x0bt"], 2, [], []⟩ := by decide +kernel
    exact Workspace.outline_of_stat (by decide)
      (Workspace.stat_name rfl rfl (by simp) (by decide) (by decide)) hoctets
  have hsort : Path.sort paths = paths := List.mergeSort_of_pairwise (by decide)
  have hreadings : (Path.sort paths).map (readingOf w root) =
      [⟨"a", .ok ⟨none, ["s\x0bt", "s\x0bt"], 2, [], []⟩⟩,
        ⟨"b\r", .error "[Errno 2] No such file or directory: 'b\\r'"⟩] := by
    have hcalled : fileId root (.ofNames ["a"]) = "a" ∧
        fileId root (.ofNames ["b\r"]) = "b\r" := by decide +kernel
    have hreason : (Fault.system .missing (.ofNames ["b\r"])).message =
        "[Errno 2] No such file or directory: 'b\\r'" := by decide +kernel
    rw [hsort, List.map_cons, List.map_singleton, readingOf, readingOf, houtline, hmissing,
      hcalled.1, hcalled.2, Except.mapError, Except.mapError, hreason]
  have hreport : (inspect w Policy.default.settings root paths).outcome = .ok report := by
    rw [inspect_outcome Policy.default root hread, hreadings]
    decide +kernel
  have hpaths : ∀ p ∈ paths, OneLine p.text := by decide +kernel
  refine ⟨hreport, hpaths, ?_⟩
  obtain ⟨-, -, hlines⟩ := inspect_lines w Policy.default root paths report (.inl hreport)
  rw [(hlines hpaths (.inl (by decide))).1]
  decide +kernel

end Inspection

end FeatureLint
