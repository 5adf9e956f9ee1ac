import FeatureLint.Proofs.ReportParts

/-!
# What stops an inspection

An inspection is given paths, and some of them may lead to nothing that can be read.  Such a path is
a finding of its own, with the reason, and the files at the other paths are looked at as if it had
not been given (`Report.ofReadings_filter`).  What does stop an inspection, with settings of the
right types, is a path that holds a NUL: no file system takes it, and the refusal is no fault of
reading.  Then there is no report at all, whatever could be said about the other files.

Paths are Unicode text here.  A path with one half of a surrogate pair, which is no text and cannot
be written down as a `Path`, would stop an inspection in the same way.

`inspect_complete` has both halves: a report that accounts for every path if no path holds a NUL,
and the one fault if some path does.
-/

namespace FeatureLint

/-- **Sorting leaves behind what a filter leaves behind**, in the same order. -/
theorem Path.sort_filter (P : Path → Bool) (paths : List Path) :
    sort (paths.filter P) = (sort paths).filter P := by
  induction paths with
  | nil => simp [sort]
  | cons p paths ih =>
    have hsorted := sort_pairwise (p :: paths)
    rw [sort_cons] at hsorted ⊢
    have hfront : ∀ q ∈ (sort paths).takeWhile (fun q => !p.le q), (!p.le q) = true :=
      fun q hq => List.mem_takeWhile_imp (p := fun q => !p.le q) hq
    have hbehind : ∀ q ∈ (sort paths).dropWhile (fun q => !p.le q), (!p.le q) = false := by
      intro q hq
      simpa using List.rel_of_pairwise_cons (List.pairwise_append.mp hsorted).2.1 hq
    -- the path goes between the paths below it and the others, before and after the filter
    have hsplit := List.takeWhile_append_dropWhile (p := fun q => !p.le q) (l := sort paths)
    generalize (sort paths).takeWhile (fun q => !p.le q) = front at *
    generalize (sort paths).dropWhile (fun q => !p.le q) = behind at *
    rw [← hsplit, List.filter_append] at ih
    by_cases hp : P p = true
    · have hfront' : ∀ q ∈ front.filter P, (!p.le q) = true :=
        fun q hq => hfront q (List.mem_of_mem_filter hq)
      have hbehind' : ∀ q ∈ behind.filter P, (!p.le q) = false :=
        fun q hq => hbehind q (List.mem_of_mem_filter hq)
      rw [List.filter_cons_of_pos hp, sort_cons, ih, takeWhile_append_of_neg _ hbehind',
        dropWhile_append_of_neg _ hbehind', List.takeWhile_eq_self_iff.mpr hfront',
        List.dropWhile_eq_nil_iff.mpr hfront', List.nil_append, List.filter_append,
        List.filter_cons_of_pos hp]
    · rw [List.filter_cons_of_neg hp, ih, List.filter_append, List.filter_cons_of_neg hp]

/-! ### A report without the files that could not be read -/

namespace Reading

def isReadable (r : Reading) : Bool := r.outline?.isSome

theorem emptyCells_of_not_isReadable {r : Reading} (h : r.isReadable = false) :
    r.emptyCells = [] := by
  rw [isReadable, Option.isSome_eq_false_iff, Option.isNone_iff_eq_none] at h
  rw [emptyCells, h]

theorem summary?_of_isReadable (r : Reading) :
    (if r.isReadable then r.summary? else none) = r.summary? := by
  rw [isReadable, summary?]
  cases r.outline? <;> rfl

theorem filter_finding?_readable (ceiling : Value) (r : Reading) :
    (r.finding? ceiling).filter (fun f => f.kind ≠ .unreadable) =
      if r.isReadable then r.finding? ceiling else none := by
  rw [isReadable, outline?, finding?]
  cases r.result with
  | error reason => rfl
  | ok o => by_cases hexceeds : exceeds o.count ceiling = true <;> simp [hexceeds]

end Reading

namespace Report

variable (s : Settings) (readings : List Reading)

theorem register_filter :
    register s (readings.filter Reading.isReadable) = register s readings := by
  rw [register, register, List.foldl_filter]
  congr 1
  funext register r
  rw [Reading.isReadable, Reading.enter]
  cases r.outline? <;> rfl

theorem afterFiles_filter :
    afterFiles s (readings.filter Reading.isReadable) = afterFiles s readings := by
  rw [afterFiles, afterFiles, register_filter,
    flatMap_filter_of_neg readings fun _ => Reading.emptyCells_of_not_isReadable]

/-- **The report on the files that could be read** is the report on all files without the findings
on the others. -/
theorem ofReadings_filter :
    ofReadings s (readings.filter Reading.isReadable) =
      { findings := (ofReadings s readings).findings.filter fun f => f.kind ≠ .unreadable
        summaries := (ofReadings s readings).summaries } := by
  have hrest : (afterFiles s readings).filter (fun f => f.kind ≠ .unreadable) =
      afterFiles s readings := by
    rw [List.filter_eq_self]
    intro f hf
    have honFile := isOnFile_of_mem_afterFiles hf
    simp_all [Finding.isOnFile]
  rw [ofReadings_eq, ofReadings_eq, afterFiles_filter, List.filter_append, hrest,
    List.filter_filterMap, List.filterMap_filter, List.filterMap_filter]
  simp only [Reading.filter_finding?_readable, Reading.summary?_of_isReadable]

end Report

/-! ### Paths that no file system takes -/

theorem Logged.each_error {α β : Type} {f : α → Logged β} {fault : Fault} {l : List α}
    (h : ∀ a ∈ l, (∃ b, (f a).outcome = .ok b) ∨ (f a).outcome = .error fault)
    (hfault : ∃ a ∈ l, (f a).outcome = .error fault) : (each f l).outcome = .error fault := by
  induction l with
  | nil => simp at hfault
  | cons a l ih =>
    rcases h a List.mem_cons_self with ⟨b, hb⟩ | ha
    · -- the first member is no trouble, so the fault comes from another one
      have hrest : (each f l).outcome = .error fault := by
        refine ih (fun c hc => h c (List.mem_cons_of_mem a hc)) ?_
        obtain ⟨c, hc, hcfault⟩ := hfault
        rcases List.mem_cons.mp hc with rfl | hc
        · rw [hb] at hcfault
          cases hcfault
        · exact ⟨c, hc, hcfault⟩
      simp [each, andThen, hb, hrest]
    · simp [each, andThen, ha]

def Workspace.isReadable (w : Workspace) (p : Path) : Bool :=
  match w.outline p with
  | .ok _ => true
  | .error _ => false

namespace Inspection

variable {w : Workspace} {root p : Path}

theorem isReadable_readingOf : (readingOf w root p).isReadable = w.isReadable p := by
  rw [Reading.isReadable, Reading.outline?, readingOf, Workspace.isReadable]
  cases w.outline p <;> rfl

/-- A path that holds a NUL is no path to an unreadable file: it is a fault of its own. -/
theorem visit_nul (ceiling : Value) (h : p.holdsNul = true) :
    (visit w ceiling root p).outcome = .error .nul := by
  have houtline : w.outline p = .error .nul := by
    simp only [Workspace.outline, Workspace.read, h, if_true]
  rw [visit, houtline]
  rfl

/-- **A path that holds a NUL stops the run.** -/
theorem inspect_nul (s : Policy) (root : Path) {paths : List Path}
    (h : ∃ p ∈ paths, p.holdsNul = true) :
    (inspect w s.settings root paths).outcome = .error .nul := by
  have hreadings : (readings w s.settings.ceiling root paths).outcome = .error .nul := by
    refine Logged.each_error (fun p _ => ?_) ?_
    · by_cases hp : p.holdsNul = true
      · exact Or.inr (visit_nul _ hp)
      · refine Or.inl ⟨_, visit_outcome fun fault => ?_⟩
        exact Workspace.isUnreadable_of_outline (by simpa using hp)
    · obtain ⟨p, hp, hnul⟩ := h
      exact ⟨p, Path.mem_sort.mpr hp, visit_nul _ hnul⟩
  simp [inspect, Logged.andThen, hreadings]

structure Accounts (w : Workspace) (s : Policy) (root : Path) (paths : List Path)
    (report : Report) : Prop where
  /-- Each path that leads to nothing readable is a finding, with the reason. -/
  unreadable : (report.findings.filter fun f => f.kind = .unreadable) =
    (Path.sort paths).filterMap fun p =>
      match w.outline p with
      | .error fault => some (.unreadable (fileId root p) fault.message)
      | .ok _ => none
  summaries : report.summaries = (Path.sort paths).filterMap fun p =>
    match w.outline p with
    | .ok o => some ⟨fileId root p, o.count⟩
    | .error _ => none
  /-- All else is as in a report on the files that can be read and no others. -/
  others : (inspect w s.settings root (paths.filter w.isReadable)).outcome =
    .ok ⟨report.findings.filter fun f => f.kind ≠ .unreadable, report.summaries⟩

/-- **An inspection comes to an end with a report on all paths**, unless one of them holds a NUL;
then that is the fault, and there is no report.  This is about paths that are Unicode text; nothing
is said of a path with one half of a surrogate pair, which would be refused as well. -/
theorem inspect_complete (w : Workspace) (s : Policy) (root : Path) (paths : List Path) :
    ((∀ p ∈ paths, p.holdsNul = false) →
        ∃ report, (inspect w s.settings root paths).outcome = .ok report ∧
          Accounts w s root paths report) ∧
      ((∃ p ∈ paths, p.holdsNul = true) →
        (inspect w s.settings root paths).outcome = .error .nul) := by
  refine ⟨fun hnul => ?_, inspect_nul s root⟩
  have hread : ∀ p ∈ paths, ∀ fault, w.outline p = .error fault → fault.isUnreadable = true :=
    fun p hp fault => Workspace.isUnreadable_of_outline (hnul p hp)
  refine ⟨_, inspect_outcome s root hread, ?_, ?_, ?_⟩
  · rw [Report.filter_unreadable, List.filterMap_map]
    congr 1
    funext p
    simp only [Function.comp, Reading.unreadable?, readingOf]
    cases w.outline p <;> rfl
  · show ((Path.sort paths).map (readingOf w root)).filterMap Reading.summary? = _
    rw [List.filterMap_map]
    congr 1
    funext p
    simp only [Function.comp, Reading.summary?, Reading.outline?, readingOf]
    cases w.outline p <;> rfl
  · rw [← Report.ofReadings_filter, List.filter_map,
      inspect_outcome s root fun p hp => hread p (List.mem_of_mem_filter hp), Path.sort_filter]
    congr 4
    funext p
    exact isReadable_readingOf.symm

/-- A file that can be read, one with an octet that starts no character, and a path to nothing. -/
theorem inspect_complete_three_paths :
    let w : Workspace := ⟨⟨[(["a"], .file (Text.Utf8.encode "Feature: one".toList)),
      (["b"], .file [0xff])]⟩, []⟩
    let paths := ["c", "b", "a"].map Path.ofString
    (∀ p ∈ paths, p.holdsNul = false) ∧
      ∃ report, (inspect w Policy.default.settings (.ofString ".") paths).outcome = .ok report ∧
        Accounts w Policy.default (.ofString ".") paths report := by
  intro w paths
  have hnul : ∀ p ∈ paths, p.holdsNul = false := by decide +kernel
  exact ⟨hnul, (inspect_complete w Policy.default (.ofString ".") paths).1 hnul⟩

/-- **A run that does not come to an end with a report**: next to a file that can be read stands a
path that holds a NUL. -/
theorem inspect_without_report :
    let w : Workspace := ⟨⟨[(["a"], .file (Text.Utf8.encode "Feature: one".toList))]⟩, []⟩
    (∃ o, w.outline (.ofString "a") = .ok o) ∧
      ¬ ∃ report, (inspect w Policy.default.settings (.ofString ".")
        [.ofString "a", .ofString "b\x00"]).outcome = .ok report := by
  intro w
  have hstat : w.stat (.ofString "a") = .ok (.file (Text.Utf8.encode "Feature: one".toList)) := by
    rw [show Path.ofString "a" = .ofNames ["a"] by decide +kernel]
    exact Workspace.stat_name rfl rfl (by simp) (by decide) (by decide)
  have hoctets : Outline.ofOctets (Text.Utf8.encode "Feature: one".toList) =
      .ok ⟨some "one", [], 0, [], []⟩ := by decide +kernel
  refine ⟨⟨_, Workspace.outline_of_stat (by decide +kernel) hstat hoctets⟩, ?_⟩
  rintro ⟨report, hreport⟩
  have hnul : ∃ p ∈ [Path.ofString "a", .ofString "b\x00"], p.holdsNul = true := by decide +kernel
  rw [inspect_nul Policy.default (.ofString ".") hnul] at hreport
  cases hreport

end Inspection

end FeatureLint
