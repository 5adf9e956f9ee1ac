import FeatureLint.Proofs.GrowingCorpus

/-!
# With and without letter case

One corpus is inspected twice, first with names that differ in letter case taken as different, then
with such names taken as one.  The second form is coarser: names that are equal have equal case
foldings.  So the classes of names only grow together (`usesOf_sublist`), and what was used more
than once in a class is used more than once in the class that takes it in.  The new class may have
another spelling in front and so stand elsewhere, but the form of its spelling leads to it, and
there is one only.

* `Index.duplicates_merge`: each duplicate goes into one of the coarser index, with its files.
* `Inspection.inspect_ignoringCase`: **without letter case findings are merged and none is lost.**
-/

namespace FeatureLint

/-! ### Coarser forms -/

namespace Index

variable {form coarser : String → String} {withinFile : Bool} {uses : List Use} {d : Duplicate}

theorem usesOf_sublist (h : ∀ a b, form a = form b → coarser a = coarser b) (uses : List Use)
    (key : String) :
    (usesOf form uses (form key)).Sublist (usesOf coarser uses (coarser key)) := by
  refine List.monotone_filter_right uses fun u hu => ?_
  rw [Bool.and_eq_true, decide_eq_true_eq] at hu ⊢
  exact ⟨hu.1, h u.key key hu.2⟩

/-- **A duplicate goes into exactly one of the coarser index**, which has its files and perhaps
more. -/
theorem duplicates_merge (h : ∀ a b, form a = form b → coarser a = coarser b)
    (hd : d ∈ (ofUses form withinFile uses).duplicates) :
    ∃ d', (ofUses coarser withinFile uses).duplicates.filter
        (fun d' => coarser d'.key = coarser d.key) = [d'] ∧ d.files ⊆ d'.files := by
  obtain ⟨hrepeated, -, hfiles⟩ := mem_duplicates_class hd
  have hsub := usesOf_sublist h uses d.key
  obtain ⟨d', hd', hform⟩ := exists_duplicate (hrepeated.mono id hsub)
  obtain ⟨-, -, hfiles'⟩ := mem_duplicates_class hd'
  refine ⟨d', hform ▸ filter_duplicates hd', fun file hfile => ?_⟩
  obtain ⟨u, hu, rfl⟩ := (hfiles file).mp hfile
  rw [hfiles', hform]
  exact ⟨u, hsub.subset hu, rfl⟩

end Index

/-! ### Two policies -/

namespace Policy

def matchingCase (s : Policy) : Policy := { s with caseSensitive := true }

def ignoringCase (s : Policy) : Policy := { s with caseSensitive := false }

theorem form_coarser (s : Policy) (a b : String)
    (h : s.matchingCase.form a = s.matchingCase.form b) :
    s.ignoringCase.form a = s.ignoringCase.form b := by
  have hab : a = b := h
  rw [hab]

end Policy

namespace Report

variable {s : Policy} {readings : List Reading} {f : Finding}

theorem notOnName_ignoringCase :
    (ofReadings s.ignoringCase.settings readings).findings.filter (fun f => ¬ f.kind.IsOnName) =
      (ofReadings s.matchingCase.settings readings).findings.filter
        fun f => ¬ f.kind.IsOnName := by
  rw [filter_not_isOnName, filter_not_isOnName]
  rfl

/-- A finding on a name goes into exactly one finding on a name with the same case folding. -/
theorem exists_filter_ignoringCase
    (hf : f ∈ (ofReadings s.matchingCase.settings readings).findings) (hkind : f.kind.IsOnName) :
    ∃ g, (ofReadings s.ignoringCase.settings readings).findings.filter (f.isLike Text.fold) = [g] ∧
      f.files ⊆ g.files := by
  obtain ⟨d, hd, hfinding⟩ := (mem_findings_onName hkind).mp hf
  obtain ⟨d', hfilter, hfiles⟩ := Index.duplicates_merge (Policy.form_coarser s) hd
  refine ⟨d'.finding f.kind, ?_, ?_⟩
  · rw [hfinding, filter_isLike hkind]
    exact congrArg (List.map (Duplicate.finding f.kind)) hfilter
  · rw [hfinding]
    exact hfiles

theorem isEmpty_matchingCase (h : (ofReadings s.ignoringCase.settings readings).isEmpty = true) :
    (ofReadings s.matchingCase.settings readings).isEmpty = true := by
  rw [isEmpty, List.isEmpty_iff] at h ⊢
  rw [List.eq_nil_iff_forall_not_mem]
  intro f hf
  by_cases hkind : f.kind.IsOnName
  · obtain ⟨g, hfilter, -⟩ := exists_filter_ignoringCase hf hkind
    simp [h] at hfilter
  · have hmem : f ∈ (ofReadings s.matchingCase.settings readings).findings.filter
        fun f => ¬ f.kind.IsOnName := List.mem_filter.mpr ⟨hf, by simpa using hkind⟩
    rw [← notOnName_ignoringCase, h] at hmem
    simp at hmem

end Report

namespace Inspection

/-- **Without letter case findings are merged and none is lost.**  The same files are counted, and
the same is said of files and cells, in the same order.  A name that is used more than once is still
reported, once, by a finding on a name with the same case folding that names all its files.  So a
corpus that passes without letter case passes with it. -/
theorem inspect_ignoringCase (w : Workspace) (s : Policy) (root : Path) (paths : List Path)
    (noNul : ∀ p ∈ paths, p.holdsNul = false) :
    ∃ report report', (inspect w s.matchingCase.settings root paths).outcome = .ok report ∧
      (inspect w s.ignoringCase.settings root paths).outcome = .ok report' ∧
      report'.summaries = report.summaries ∧
      report'.findings.filter (fun f => ¬ f.kind.IsOnName) =
        report.findings.filter (fun f => ¬ f.kind.IsOnName) ∧
      (∀ f ∈ report.findings, f.kind.IsOnName →
        ∃ g, report'.findings.filter (f.isLike Text.fold) = [g] ∧ f.files ⊆ g.files) ∧
      (report'.isEmpty = true → report.isEmpty = true) := by
  have hread : ∀ p ∈ paths, ∀ fault, w.outline p = .error fault → fault.isUnreadable = true :=
    fun p hp fault => Workspace.isUnreadable_of_outline (noNul p hp)
  exact ⟨_, _, inspect_outcome _ root hread, inspect_outcome _ root hread, rfl,
    Report.notOnName_ignoringCase, fun _ => Report.exists_filter_ignoringCase,
    Report.isEmpty_matchingCase⟩

/-- Three spellings of one name: two files share the last, and the first file has another twice. -/
theorem inspect_ignoringCase_three_spellings :
    let w : Workspace :=
      ⟨⟨[(["a"], .file (Text.Utf8.encode "Scenario: ONE\nScenario: One\nScenario: One".toList)),
        (["b"], .file (Text.Utf8.encode "Scenario: one".toList)),
        (["c"], .file (Text.Utf8.encode "Scenario: one".toList))]⟩, []⟩
    let s := Policy.default
    let root := Path.ofNames []
    let paths : List Path := [.ofNames ["c"], .ofNames ["a"], .ofNames ["b"]]
    (∀ p ∈ paths, p.holdsNul = false) ∧
      ∃ report report', (inspect w s.matchingCase.settings root paths).outcome = .ok report ∧
        (inspect w s.ignoringCase.settings root paths).outcome = .ok report' ∧
        report'.summaries = report.summaries ∧
        report'.findings.filter (fun f => ¬ f.kind.IsOnName) =
          report.findings.filter (fun f => ¬ f.kind.IsOnName) ∧
        (∀ f ∈ report.findings, f.kind.IsOnName →
          ∃ g, report'.findings.filter (f.isLike Text.fold) = [g] ∧ f.files ⊆ g.files) ∧
        (report'.isEmpty = true → report.isEmpty = true) := by
  intro w s root paths
  have hnul : ∀ p ∈ paths, p.holdsNul = false := by decide
  exact ⟨hnul, inspect_ignoringCase w s root paths hnul⟩

end Inspection

end FeatureLint
