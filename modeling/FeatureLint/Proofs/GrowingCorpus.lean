import FeatureLint.Proofs.CalledAlike
import FeatureLint.Proofs.ReportOrder

/-!
# One more file

A corpus grows by a file, which may come in front of all others in the order of reading, behind them
or in between.  Two reports are compared, one without the file and one with it.

What is said of single files and of cells does not change.  A name that is used more than once may
be shown by another spelling, if the new file comes first, and so stand elsewhere; but its class has
only grown (`usesOf_append`), and the form of the spelling still leads to the class.  So nothing is
lost and nothing falls apart.

* `Index.duplicates_grow`: a duplicate is still one, with its files and perhaps the new one.
* `Index.mem_duplicates_of_not_mem`: what does not name the new file is as it was.
* `Report.filter_isLike`: the findings on one name, wherever they stand in the report.
* `Inspection.inspect_grows`: **the two reports side by side.**
-/

namespace FeatureLint

/-! ### Duplicates -/

namespace Index

variable {form : String → String} {withinFile : Bool} {uses first own second : List Use}
  {d d' : Duplicate} {file : String}

theorem eq_of_form_eq (hd : d ∈ (ofUses form withinFile uses).duplicates)
    (hd' : d' ∈ (ofUses form withinFile uses).duplicates) (h : form d.key = form d'.key) :
    d = d' := by
  obtain ⟨k, e, he, -, rfl⟩ := mem_duplicates.mp hd
  obtain ⟨k', e', he', -, rfl⟩ := mem_duplicates.mp hd'
  simp only [form_spelling he, form_spelling he'] at h
  subst h
  rw [he, Option.some.injEq] at he'
  rw [he']

theorem filter_duplicates (hd : d ∈ (ofUses form withinFile uses).duplicates) :
    (ofUses form withinFile uses).duplicates.filter (fun d' => form d'.key = form d.key) = [d] := by
  refine List.perm_singleton.mp ((List.perm_ext_iff_of_nodup (nodup_duplicates.filter _)
    (List.nodup_singleton d)).mpr fun d' => ?_)
  rw [List.mem_filter, decide_eq_true_eq, List.mem_singleton]
  constructor
  · rintro ⟨hd', hform⟩
    exact eq_of_form_eq hd' hd hform
  · rintro rfl
    exact ⟨hd, rfl⟩

section Grow

variable (hown : ∀ u ∈ own, u.file = file)

include hown

/-- **A duplicate stays one when a file comes in**, and has its files and perhaps the new one. -/
theorem duplicates_grow (hd : d ∈ (ofUses form withinFile (first ++ second)).duplicates) :
    ∃ d', (ofUses form withinFile (first ++ (own ++ second))).duplicates.filter
        (fun d' => form d'.key = form d.key) = [d'] ∧
      ((∀ f, f ∈ d'.files ↔ f ∈ d.files) ∨ ∀ f, f ∈ d'.files ↔ f ∈ d.files ∨ f = file) := by
  obtain ⟨hrepeated, -, hfiles⟩ := mem_duplicates_class hd
  have hsub : (usesOf form (first ++ second) (form d.key)).Sublist
      (usesOf form (first ++ (own ++ second)) (form d.key)) :=
    ((List.sublist_append_right own second).append_left first).filter _
  obtain ⟨d', hd', hform⟩ := exists_duplicate (hrepeated.mono id hsub)
  refine ⟨d', hform ▸ filter_duplicates hd', ?_⟩
  obtain ⟨-, -, hfiles'⟩ := mem_duplicates_class hd'
  simp only [hform, usesOf_append, List.mem_append] at hfiles hfiles'
  by_cases hnone : usesOf form own (form d.key) = []
  · refine .inl fun f => ?_
    rw [hfiles, hfiles', hnone]
    simp
  · obtain ⟨v, hv⟩ := List.exists_mem_of_ne_nil _ hnone
    have hvfile := hown v (mem_usesOf.mp hv).1
    refine .inr fun f => ?_
    rw [hfiles, hfiles']
    constructor
    · rintro ⟨u, hu | hu | hu, rfl⟩
      · exact .inl ⟨u, .inl hu, rfl⟩
      · exact .inr (hown u (mem_usesOf.mp hu).1)
      · exact .inl ⟨u, .inr hu, rfl⟩
    · rintro (⟨u, hu | hu, rfl⟩ | rfl)
      · exact ⟨u, .inl hu, rfl⟩
      · exact ⟨u, .inr (.inr hu), rfl⟩
      · exact ⟨v, .inr (.inl hv), hvfile⟩

theorem mem_duplicates_of_not_mem
    (hd : d ∈ (ofUses form withinFile (first ++ (own ++ second))).duplicates)
    (hfile : file ∉ d.files) : d ∈ (ofUses form withinFile (first ++ second)).duplicates := by
  obtain ⟨k, e, he, hrepeated, rfl⟩ := mem_duplicates.mp hd
  have hnone : usesOf form own k = [] := by
    rw [List.eq_nil_iff_forall_not_mem]
    intro u hu
    refine hfile ((Entry.mem_files he).mpr ⟨u, ?_, hown u (mem_usesOf.mp hu).1⟩)
    simp [usesOf_append, hu]
  rw [usesOf_append, usesOf_append, hnone, List.nil_append, ← usesOf_append] at he hrepeated
  exact mem_duplicates.mpr ⟨k, e, he, hrepeated, rfl⟩

end Grow

end Index

/-! ### Findings on names -/

namespace Finding

def Kind.IsOnName (k : Kind) : Prop := k = .duplicateFeature ∨ k = .duplicateScenario

instance (k : Kind) : Decidable k.IsOnName :=
  inferInstanceAs (Decidable (k = .duplicateFeature ∨ k = .duplicateScenario))

/-- Whether two findings are of one kind and on one name, by the form of names. -/
def isLike (form : String → String) (f g : Finding) : Bool :=
  g.kind = f.kind && g.key.map form = f.key.map form

end Finding

namespace Report

variable {s : Policy} {readings : List Reading} {form : String → String} {d : Duplicate}
  {kind : Finding.Kind} {f : Finding}

theorem kind_of_mem_onFiles (h : f ∈ readings.filterMap (Reading.finding? (.int s.ceiling))) :
    ¬ f.kind.IsOnName := by
  obtain ⟨r, -, hr⟩ := List.mem_filterMap.mp h
  rcases Reading.finding?_eq_some.mp hr with ⟨reason, -, rfl⟩ | ⟨o, -, -, rfl⟩
  · exact (by decide : ¬ Finding.Kind.unreadable.IsOnName)
  · exact (by decide : ¬ Finding.Kind.tooManyScenarios.IsOnName)

theorem kind_of_mem_cells (h : f ∈ cells s readings) : ¬ f.kind.IsOnName := by
  rw [cells] at h
  split at h
  · obtain ⟨r, -, hcell⟩ := List.mem_flatMap.mp h
    obtain ⟨o, -, row, -, i, -, rfl⟩ := Reading.mem_emptyCells.mp hcell
    exact (by decide : ¬ Finding.Kind.emptyCell.IsOnName)
  · simp at h

theorem mem_findings_onName (hkind : f.kind.IsOnName) :
    f ∈ (ofReadings s.settings readings).findings ↔
      ∃ d ∈ (indexOf s readings f.kind).duplicates, f = d.finding f.kind := by
  rw [mem_findings]
  constructor
  · intro horigin
    cases horigin with
    | unreadable | tooMany | emptyCell =>
      rcases hkind with hkind | hkind
      · cases hkind
      · cases hkind
    | @feature d hd => exact ⟨d, features_eq_indexOf ▸ hd, rfl⟩
    | @scenario d hd => exact ⟨d, scenarios_eq_indexOf ▸ hd, rfl⟩
  · rintro ⟨d, hd, hf⟩
    rcases hkind with hkind | hkind
    · rw [hf, hkind]
      rw [hkind, ← features_eq_indexOf] at hd
      exact .feature hd
    · rw [hf, hkind]
      rw [hkind, ← scenarios_eq_indexOf] at hd
      exact .scenario hd

theorem filter_isLike_map (kind : Finding.Kind) (l : List Duplicate) :
    (l.map (Duplicate.finding kind)).filter ((d.finding kind).isLike form) =
      (l.filter fun d' => form d'.key = form d.key).map (Duplicate.finding kind) := by
  rw [List.filter_map]
  congr 2
  funext d'
  simp [Finding.isLike, Duplicate.finding]

theorem filter_isLike_eq_nil {l : List Finding} (h : ∀ g ∈ l, g.kind ≠ f.kind) :
    l.filter (f.isLike form) = [] := by
  rw [List.filter_eq_nil_iff]
  intro g hg
  simp [Finding.isLike, h g hg]

theorem filter_isLike (hkind : kind.IsOnName) :
    (ofReadings s.settings readings).findings.filter ((d.finding kind).isLike form) =
      ((indexOf s readings kind).duplicates.filter fun d' => form d'.key = form d.key).map
        (Duplicate.finding kind) := by
  have honFiles : (readings.filterMap (Reading.finding? (.int s.ceiling))).filter
      ((d.finding kind).isLike form) = [] :=
    filter_isLike_eq_nil fun g hg he => kind_of_mem_onFiles hg (he ▸ hkind)
  have hcells : (cells s readings).filter ((d.finding kind).isLike form) = [] :=
    filter_isLike_eq_nil fun g hg he => kind_of_mem_cells hg (he ▸ hkind)
  have hother : ∀ kind', kind' ≠ kind → ∀ l, (List.map (Duplicate.finding kind') l).filter
      ((d.finding kind).isLike form) = [] := by
    intro kind' hne l
    exact filter_isLike_eq_nil fun g hg => kind_of_mem_map hg ▸ hne
  rw [findings_eq, List.filter_append, List.filter_append, List.filter_append, honFiles, hcells]
  rcases hkind with rfl | rfl
  · rw [filter_isLike_map, hother .duplicateScenario (by decide), List.nil_append, List.append_nil,
      List.append_nil]
  · rw [filter_isLike_map, hother .duplicateFeature (by decide), List.nil_append, List.nil_append,
      List.append_nil]

theorem filter_not_isOnName :
    (ofReadings s.settings readings).findings.filter (fun f => ¬ f.kind.IsOnName) =
      readings.filterMap (Reading.finding? (.int s.ceiling)) ++ cells s readings := by
  have hnone : ∀ kind : Finding.Kind, kind.IsOnName → ∀ l,
      (List.map (Duplicate.finding kind) l).filter (fun f => ¬ f.kind.IsOnName) = [] := by
    intro kind hkind l
    rw [List.filter_eq_nil_iff]
    intro f hf
    simp [kind_of_mem_map hf, hkind]
  rw [findings_eq, List.filter_append, List.filter_append, List.filter_append,
    hnone _ (.inl rfl), hnone _ (.inr rfl), List.append_nil, List.append_nil]
  congr 1
  · rw [List.filter_eq_self]
    intro f hf
    simpa using kind_of_mem_onFiles hf
  · rw [List.filter_eq_self]
    intro f hf
    simpa using kind_of_mem_cells hf

/-! ### One more reading -/

section Grow

variable {first second : List Reading} {r : Reading} {g : Finding}

theorem cells_sublist : (cells s (first ++ second)).Sublist (cells s (first ++ r :: second)) := by
  rw [cells, cells]
  split
  · rw [List.flatMap_append, List.flatMap_append, List.flatMap_cons]
    exact (List.sublist_append_right _ _).append_left _
  · exact List.Sublist.refl []

theorem notOnName_sublist :
    ((ofReadings s.settings (first ++ second)).findings.filter fun f => ¬ f.kind.IsOnName).Sublist
      ((ofReadings s.settings (first ++ r :: second)).findings.filter
        fun f => ¬ f.kind.IsOnName) := by
  rw [filter_not_isOnName, filter_not_isOnName]
  exact ((List.sublist_cons_self r second).append_left first |>.filterMap _).append cells_sublist

/-- A finding on a name is still there, and has not become two. -/
theorem exists_filter_isLike (hf : f ∈ (ofReadings s.settings (first ++ second)).findings)
    (hkind : f.kind.IsOnName) :
    ∃ g, (ofReadings s.settings (first ++ r :: second)).findings.filter (f.isLike s.form) = [g] ∧
      ((∀ file, file ∈ g.files ↔ file ∈ f.files) ∨
        ∀ file, file ∈ g.files ↔ file ∈ f.files ∨ file = r.file) := by
  obtain ⟨d, hd, hfinding⟩ := (mem_findings_onName hkind).mp hf
  have hown : ∀ u ∈ (r.namesOf f.kind).map (Use.mk · r.file), u.file = r.file := by simp
  rw [indexOf, List.flatMap_append] at hd
  obtain ⟨d', hfilter, hfiles⟩ := Index.duplicates_grow hown hd
  refine ⟨d'.finding f.kind, ?_, ?_⟩
  · rw [hfinding, filter_isLike hkind, indexOf, List.flatMap_append, List.flatMap_cons, hfilter]
    rfl
  · rw [hfinding]
    exact hfiles

theorem mem_findings_of_not_mem
    (hg : g ∈ (ofReadings s.settings (first ++ r :: second)).findings) (hfile : r.file ∉ g.files) :
    g ∈ (ofReadings s.settings (first ++ second)).findings := by
  by_cases hkind : g.kind.IsOnName
  · obtain ⟨d, hd, hfinding⟩ := (mem_findings_onName hkind).mp hg
    have hown : ∀ u ∈ (r.namesOf g.kind).map (Use.mk · r.file), u.file = r.file := by simp
    refine (mem_findings_onName hkind).mpr ⟨d, ?_, hfinding⟩
    rw [indexOf, List.flatMap_append, List.flatMap_cons] at hd
    rw [indexOf, List.flatMap_append]
    rw [hfinding] at hfile
    exact Index.mem_duplicates_of_not_mem hown hd hfile
  · have hother : ∀ {r' : Reading}, r' ∈ first ++ r :: second → r.file ∉ [r'.file] →
        r' ∈ first ++ second := by
      intro r' hr' hne
      rcases List.mem_append.mp hr' with hr' | hr'
      · exact List.mem_append_left second hr'
      · rcases List.mem_cons.mp hr' with rfl | hr'
        · exact absurd List.mem_cons_self hne
        · exact List.mem_append_right first hr'
    rw [mem_findings] at hg ⊢
    cases hg with
    | unreadable hr hreason => exact .unreadable (hother hr hfile) hreason
    | tooMany hr ho hcount => exact .tooMany (hother hr hfile) ho hcount
    | feature => exact absurd (.inl rfl) hkind
    | scenario => exact absurd (.inr rfl) hkind
    | emptyCell hcheck hr ho hrow hi => exact .emptyCell hcheck (hother hr hfile) ho hrow hi

end Grow

end Report

namespace Inspection

/-- **One more file hides nothing.**  What is said of files and cells is said again, in the same
order.  A name that is used more than once is reported once again, with the same files and perhaps
the new one.  And whatever does not name the new file was said before. -/
theorem inspect_grows (w : Workspace) (s : Policy) (root : Path) (before after : List Path)
    (q : Path) (o : Outline) (noNul : ∀ p ∈ before ++ after, p.holdsNul = false)
    (readable : w.outline q = .ok o) :
    ∃ report report', (inspect w s.settings root (before ++ after)).outcome = .ok report ∧
      (inspect w s.settings root (before ++ q :: after)).outcome = .ok report' ∧
      (report.findings.filter fun f => ¬ f.kind.IsOnName).Sublist
        (report'.findings.filter fun f => ¬ f.kind.IsOnName) ∧
      (∀ f ∈ report.findings, f.kind.IsOnName →
        ∃ g, report'.findings.filter (f.isLike s.form) = [g] ∧
          ((∀ file, file ∈ g.files ↔ file ∈ f.files) ∨
            ∀ file, file ∈ g.files ↔ file ∈ f.files ∨ file = fileId root q)) ∧
      ∀ g ∈ report'.findings, fileId root q ∉ g.files → g ∈ report.findings := by
  have hpath : ∀ p ∈ before ++ after, ∀ fault, w.outline p = .error fault →
      fault.isUnreadable = true :=
    fun p hp fault => Workspace.isUnreadable_of_outline (noNul p hp)
  have hpath' : ∀ p ∈ before ++ q :: after, ∀ fault, w.outline p = .error fault →
      fault.isUnreadable = true := by
    obtain ⟨hbefore, hafter⟩ := List.forall_mem_append.mp hpath
    refine List.forall_mem_append.mpr ⟨hbefore, List.forall_mem_cons.mpr ⟨fun fault hfault => ?_,
      hafter⟩⟩
    rw [readable] at hfault
    cases hfault
  obtain ⟨first, second, hwithout, hwith⟩ := Path.sort_insert before after q
  rw [inspect_outcome s root hpath, inspect_outcome s root hpath', hwithout, hwith,
    List.map_append, List.map_append, List.map_cons]
  exact ⟨_, _, rfl, rfl, Report.notOnName_sublist, fun _ => Report.exists_filter_isLike,
    fun _ => Report.mem_findings_of_not_mem⟩

/-- Two files share a name, up to letter case, and a third that has it too comes in front. -/
theorem inspect_grows_in_front :
    let w : Workspace := ⟨⟨[(["a"], .file (Text.Utf8.encode "Scenario: ONE".toList)),
      (["b"], .file (Text.Utf8.encode "Scenario: One".toList)),
      (["c"], .file (Text.Utf8.encode "Scenario: one".toList))]⟩, []⟩
    let s : Policy := { Policy.default with caseSensitive := false }
    let root := Path.ofNames []
    w.outline (.ofNames ["a"]) = .ok ⟨none, ["ONE"], 1, [], []⟩ ∧
      ∃ report report',
        (inspect w s.settings root [.ofNames ["b"], .ofNames ["c"]]).outcome = .ok report ∧
        (inspect w s.settings root [.ofNames ["b"], .ofNames ["c"], .ofNames ["a"]]).outcome =
          .ok report' ∧
        (report.findings.filter fun f => ¬ f.kind.IsOnName).Sublist
          (report'.findings.filter fun f => ¬ f.kind.IsOnName) ∧
        (∀ f ∈ report.findings, f.kind.IsOnName →
          ∃ g, report'.findings.filter (f.isLike s.form) = [g] ∧
            ((∀ file, file ∈ g.files ↔ file ∈ f.files) ∨
              ∀ file, file ∈ g.files ↔ file ∈ f.files ∨ file = "a")) ∧
        ∀ g ∈ report'.findings, "a" ∉ g.files → g ∈ report.findings := by
  intro w s root
  have hoctets : Outline.ofOctets (Text.Utf8.encode "Scenario: ONE".toList) =
      .ok ⟨none, ["ONE"], 1, [], []⟩ := by decide +kernel
  have hreadable : w.outline (.ofNames ["a"]) = .ok ⟨none, ["ONE"], 1, [], []⟩ :=
    Workspace.outline_of_stat (by decide)
      (Workspace.stat_name rfl rfl (by simp) (by decide) (by decide)) hoctets
  have hfile : fileId root (.ofNames ["a"]) = "a" := by decide +kernel
  have hgrows := inspect_grows w s root [.ofNames ["b"], .ofNames ["c"]] [] (.ofNames ["a"]) _
    (by decide) hreadable
  rw [hfile] at hgrows
  exact ⟨hreadable, hgrows⟩

end Inspection

end FeatureLint
