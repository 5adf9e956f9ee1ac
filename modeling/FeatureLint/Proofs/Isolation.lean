import FeatureLint.Proofs.Readings

/-!
# A file that cannot be read

A file that cannot be read is a finding of its own and touches nothing else.  Two runs are compared,
one with the path of such a file among its paths and one without.  A report starts with the findings
on single files, and the rest of it (`Report.afterFiles`) is made from the outlines, of which an
unreadable file has none.  So the rest is the same in both runs, and so are the summaries; the
findings on single files are those of one run with one more somewhere among them.
-/

namespace FeatureLint

def Finding.isOnFile (f : Finding) : Bool := f.kind = .unreadable || f.kind = .tooManyScenarios

def Finding.unreadable (file reason : String) : Finding :=
  { kind := .unreadable, files := [file], detail := some reason }

namespace Reading

variable {r : Reading} {reason : String}

theorem outline?_of_error (h : r.result = .error reason) : r.outline? = none := by
  rw [outline?, h]

theorem finding?_of_error (h : r.result = .error reason) (ceiling : Value) :
    r.finding? ceiling = some (.unreadable r.file reason) := by
  rw [finding?, h]
  rfl

theorem isOnFile_of_finding? {ceiling : Value} {f : Finding} (h : r.finding? ceiling = some f) :
    f.isOnFile = true := by
  rw [finding?] at h
  split at h
  · cases h
    rfl
  · split at h
    · cases h
      rfl
    · cases h

theorem isOnFile_of_mem_emptyCells {f : Finding} (h : f ∈ r.emptyCells) : f.isOnFile = false := by
  rw [emptyCells] at h
  split at h
  · obtain ⟨row, -, hrow⟩ := List.mem_flatMap.mp h
    obtain ⟨⟨cell, column⟩, -, hcell⟩ := List.mem_filterMap.mp hrow
    by_cases hempty : cell = ""
    · simp only [hempty, if_true] at hcell
      cases hcell
      rfl
    · simp [hempty] at hcell
  · simp at h

end Reading

namespace Report

def afterFiles (s : Settings) (readings : List Reading) : List Finding :=
  (register s readings).features.duplicates.map (Duplicate.finding .duplicateFeature)
    ++ (register s readings).scenarios.duplicates.map (Duplicate.finding .duplicateScenario)
    ++ if s.checkCells.isTruthy then readings.flatMap Reading.emptyCells else []

theorem ofReadings_eq (s : Settings) (readings : List Reading) :
    ofReadings s readings =
      { findings := readings.filterMap (Reading.finding? s.ceiling) ++ afterFiles s readings
        summaries := readings.filterMap Reading.summary? } := by
  simp only [ofReadings, afterFiles, List.append_assoc]

theorem isOnFile_of_mem_afterFiles {s : Settings} {readings : List Reading} {f : Finding}
    (h : f ∈ afterFiles s readings) : f.isOnFile = false := by
  rw [afterFiles, List.mem_append, List.mem_append] at h
  rcases h with (h | h) | h
  · obtain ⟨d, -, rfl⟩ := List.mem_map.mp h
    rfl
  · obtain ⟨d, -, rfl⟩ := List.mem_map.mp h
    rfl
  · split at h
    · obtain ⟨r, -, hr⟩ := List.mem_flatMap.mp h
      exact Reading.isOnFile_of_mem_emptyCells hr
    · simp at h

section Insert

variable {r : Reading} {reason : String} (h : r.result = .error reason) (s : Settings)
  (first second : List Reading)

include h

theorem register_insert : register s (first ++ r :: second) = register s (first ++ second) := by
  rw [register, register, List.foldl_append, List.foldl_append, List.foldl_cons, Reading.enter,
    Reading.outline?_of_error h]

theorem afterFiles_insert :
    afterFiles s (first ++ r :: second) = afterFiles s (first ++ second) := by
  have hcells : r.emptyCells = [] := by rw [Reading.emptyCells, Reading.outline?_of_error h]
  rw [afterFiles, afterFiles, register_insert h, List.flatMap_append, List.flatMap_append,
    List.flatMap_cons, hcells, List.nil_append]

/-- **The report with one more reading that failed.** -/
theorem ofReadings_insert :
    ofReadings s (first ++ r :: second) =
      { findings := first.filterMap (Reading.finding? s.ceiling)
          ++ .unreadable r.file reason :: second.filterMap (Reading.finding? s.ceiling)
          ++ afterFiles s (first ++ second)
        summaries := (ofReadings s (first ++ second)).summaries } := by
  have hfindings : (first ++ r :: second).filterMap (Reading.finding? s.ceiling) =
      first.filterMap (Reading.finding? s.ceiling)
        ++ .unreadable r.file reason :: second.filterMap (Reading.finding? s.ceiling) := by
    rw [List.filterMap_append, List.filterMap_cons, Reading.finding?_of_error h]
  have hsummaries : (first ++ r :: second).filterMap Reading.summary? =
      (first ++ second).filterMap Reading.summary? := by
    rw [List.filterMap_append, List.filterMap_append, List.filterMap_cons, Reading.summary?,
      Reading.outline?_of_error h]
    rfl
  rw [ofReadings_eq, ofReadings_eq, afterFiles_insert h, hfindings, hsummaries]

end Insert

end Report

namespace Inspection

/-- **A file that cannot be read changes nothing else.**  One more path that leads to nothing
readable gives the same report with one more finding, among those on single files. -/
theorem inspect_insert_unreadable (w : Workspace) (s : Policy) (root : Path)
    (before after : List Path) (q : Path) (fault : Fault)
    (noNul : ∀ p ∈ before ++ after, p.holdsNul = false)
    (failed : w.outline q = .error fault) (unreadable : fault.isUnreadable = true) :
    ∃ first second rest summaries,
      (inspect w s.settings root (before ++ after)).outcome =
          .ok ⟨first ++ second ++ rest, summaries⟩ ∧
        (inspect w s.settings root (before ++ q :: after)).outcome =
          .ok ⟨first ++ .unreadable (fileId root q) fault.message :: second ++ rest, summaries⟩ ∧
        (∀ f ∈ first ++ second, f.isOnFile = true) ∧ ∀ f ∈ rest, f.isOnFile = false := by
  have hpath : ∀ p ∈ before ++ after, ∀ fault, w.outline p = .error fault →
      fault.isUnreadable = true :=
    fun p hp fault => Workspace.isUnreadable_of_outline (noNul p hp)
  have hpath' : ∀ p ∈ before ++ q :: after, ∀ fault, w.outline p = .error fault →
      fault.isUnreadable = true := by
    intro p hp fault' hfault
    rcases List.mem_append.mp hp with hp | hp
    · exact hpath p (List.mem_append_left after hp) fault' hfault
    · rcases List.mem_cons.mp hp with rfl | hp
      · rw [failed] at hfault
        cases hfault
        exact unreadable
      · exact hpath p (List.mem_append_right before hp) fault' hfault
  obtain ⟨first, second, hwithout, hwith⟩ := Path.sort_insert before after q
  have hq : (readingOf w root q).result = .error fault.message := by
    rw [readingOf, failed]
    rfl
  rw [inspect_outcome s root hpath, inspect_outcome s root hpath', hwithout, hwith,
    List.map_append, List.map_append, List.map_cons, Report.ofReadings_insert hq,
    Report.ofReadings_eq, List.filterMap_append]
  refine ⟨_, _, _, _, rfl, rfl, ?_, ?_⟩
  · intro f hf
    rw [← List.filterMap_append] at hf
    obtain ⟨r, -, hr⟩ := List.mem_filterMap.mp hf
    exact Reading.isOnFile_of_finding? hr
  · intro f hf
    exact Report.isOnFile_of_mem_afterFiles hf

/-- Between two files that can be read stands one with an octet that starts no character. -/
theorem inspect_insert_bad_octet :
    let w : Workspace := ⟨⟨[(["a"], .file (Text.Utf8.encode "Scenario: s".toList)),
      (["b"], .file [0xff]), (["c"], .file (Text.Utf8.encode "Scenario: S".toList))]⟩, []⟩
    let fault : Fault := .encoding ⟨0, [0xff], .start⟩
    w.outline (.ofNames ["b"]) = .error fault ∧
      ∃ first second rest summaries,
        (inspect w Policy.default.settings (.ofNames [])
            [.ofNames ["c"], .ofNames ["a"]]).outcome =
            .ok ⟨first ++ second ++ rest, summaries⟩ ∧
          (inspect w Policy.default.settings (.ofNames [])
              [.ofNames ["c"], .ofNames ["b"], .ofNames ["a"]]).outcome =
            .ok ⟨first ++ .unreadable "b" fault.message :: second ++ rest, summaries⟩ ∧
          (∀ f ∈ first ++ second, f.isOnFile = true) ∧ ∀ f ∈ rest, f.isOnFile = false := by
  intro w fault
  have hstat : w.stat (.ofNames ["b"]) = .ok (.file [0xff]) :=
    Workspace.stat_name rfl rfl (by simp) (by decide) (by decide)
  have hdecode : Text.Utf8.decode [0xff] = .error ⟨0, [0xff], .start⟩ := by
    rw [Text.Utf8.decode, Text.Utf8.decodeFrom]
    rfl
  have hoctets : Outline.ofOctets [0xff] = .error ⟨0, [0xff], .start⟩ := by
    simp [Outline.ofOctets, Text.Utf8.decodeMarked, Text.Utf8.mark, hdecode, Except.map]
  have hread : w.read (.ofNames ["b"]) = .ok [0xff] := by
    rw [Workspace.read, hstat]
    rfl
  have hfailed : w.outline (.ofNames ["b"]) = .error fault := by
    simp only [Workspace.outline, hread, hoctets, fault]
  exact ⟨hfailed, inspect_insert_unreadable w Policy.default (.ofNames []) [.ofNames ["c"]]
    [.ofNames ["a"]] (.ofNames ["b"]) fault (by decide) hfailed rfl⟩

end Inspection

end FeatureLint
