import FeatureLint.Proofs.ReportParts
import Mathlib.Data.List.Sort

/-!
# Settings that ask for less

One corpus is inspected twice, the second time with settings that ask for less: the ceiling may be
higher, and names within a file and empty cells may be left alone (`Policy.LooserThan`).  The three
settings act at three places, each in a section of its own, and in each section some findings drop
out and the others keep their order.

Only what is said of a file with too many scenarios can change, as it tells the ceiling; so reports
are compared without it (`Finding.withoutExcess`).

* `Index.duplicates_sublist`: the names that are used more than once, if files are not looked into,
  are some of those that are found if they are.
* `Report.findings_looser`: section by section.
* `Inspection.inspect_looser`: **looser settings add no findings.**
-/

namespace FeatureLint

/-- The settings `s'` ask for no more than `s`, and compare names in the same way. -/
structure Policy.LooserThan (s' s : Policy) : Prop where
  ceiling : s.ceiling ≤ s'.ceiling
  caseSensitive : s'.caseSensitive = s.caseSensitive
  withinFile : s'.withinFile = true → s.withinFile = true
  checkCells : s'.checkCells = true → s.checkCells = true

def Finding.withoutExcess (f : Finding) : Finding :=
  if f.kind = .tooManyScenarios then { f with detail := none } else f

/-! ### Names -/

/-- Those names that are found if files are not looked into are found if they are, in the same
order. -/
theorem Index.duplicates_sublist {form : String → String} {withinFile withinFile' : Bool}
    {uses : List Use} (h : withinFile' = true → withinFile = true) :
    (ofUses form withinFile' uses).duplicates.Sublist (ofUses form withinFile uses).duplicates := by
  have hsub : (ofUses form withinFile' uses).duplicates ⊆
      (ofUses form withinFile uses).duplicates := by
    intro d hd
    obtain ⟨k, e, he, hrepeated, rfl⟩ := mem_duplicates.mp hd
    exact mem_duplicates.mpr ⟨k, e, he, hrepeated.mono h (List.Sublist.refl _), rfl⟩
  -- both are in strict order, so what is contained comes in the same order
  have : Std.Antisymm fun d d' : Duplicate => d.key < d'.key :=
    ⟨fun d d' hlt hgt => absurd hgt (String.lt_asymm hlt)⟩
  have : Std.Irrefl fun d d' : Duplicate => d.key < d'.key :=
    ⟨fun d => String.lt_irrefl d.key⟩
  have hnodup : (ofUses form withinFile' uses).duplicates.Nodup := duplicates_pairwise.nodup
  exact List.sublist_of_subperm_of_pairwise (List.subperm_of_subset hnodup hsub)
    duplicates_pairwise duplicates_pairwise

/-! ### Files -/

namespace Reading

variable {ceiling ceiling' : Int}

theorem finding?_looser (h : ceiling ≤ ceiling') (r : Reading) :
    (r.finding? (.int ceiling')).map Finding.withoutExcess = none ∨
      (r.finding? (.int ceiling')).map Finding.withoutExcess =
        (r.finding? (.int ceiling)).map Finding.withoutExcess := by
  rw [finding?, finding?]
  cases r.result with
  | error reason => exact .inr rfl
  | ok o =>
    by_cases hexceeds : exceeds o.count (.int ceiling') = true
    · have hceiling : exceeds o.count (.int ceiling) = true := by
        rw [exceeds_int] at hexceeds ⊢
        omega
      simp [hexceeds, hceiling, Finding.withoutExcess]
    · simp [hexceeds]

end Reading

/-! ### Whole reports -/

namespace Report

variable {s s' : Policy} {readings : List Reading}

theorem onFiles_looser (h : s'.LooserThan s) :
    ((readings.filterMap (Reading.finding? (.int s'.ceiling))).map Finding.withoutExcess).Sublist
      ((readings.filterMap (Reading.finding? (.int s.ceiling))).map Finding.withoutExcess) := by
  rw [List.map_filterMap, List.map_filterMap]
  exact filterMap_sublist fun r _ => Reading.finding?_looser h.ceiling r

theorem duplicates_looser (h : s'.LooserThan s) (kind : Finding.Kind) :
    (indexOf s' readings kind).duplicates.Sublist (indexOf s readings kind).duplicates := by
  have hform : s'.form = s.form := by rw [Policy.form, h.caseSensitive, Policy.form]
  rw [indexOf, hform, indexOf]
  refine Index.duplicates_sublist fun hwithin => ?_
  rw [Bool.and_eq_true] at hwithin ⊢
  exact ⟨hwithin.1, h.withinFile hwithin.2⟩

theorem cells_looser (h : s'.LooserThan s) : (cells s' readings).Sublist (cells s readings) := by
  rw [cells, cells]
  by_cases hcheck : s'.checkCells = true
  · rw [if_pos hcheck, if_pos (h.checkCells hcheck)]
  · rw [if_neg hcheck]
    exact List.nil_sublist _

theorem findings_looser (h : s'.LooserThan s) (readings : List Reading) :
    ((ofReadings s'.settings readings).findings.map Finding.withoutExcess).Sublist
      ((ofReadings s.settings readings).findings.map Finding.withoutExcess) := by
  rw [findings_eq, findings_eq]
  simp only [List.map_append]
  exact (((onFiles_looser h).append (((duplicates_looser h _).map _).map _)).append
    (((duplicates_looser h _).map _).map _)).append ((cells_looser h).map _)

theorem isEmpty_looser (h : s'.LooserThan s)
    (hempty : (ofReadings s.settings readings).isEmpty = true) :
    (ofReadings s'.settings readings).isEmpty = true := by
  have hsub := findings_looser h readings
  rw [isEmpty, List.isEmpty_iff] at hempty ⊢
  rw [hempty, List.map_nil, List.sublist_nil, List.map_eq_nil_iff] at hsub
  exact hsub

end Report

namespace Inspection

/-- **Looser settings add no findings**: the same files are counted, and the findings are some of
those of the stricter settings, in the same order, up to how a ceiling is told.  So a corpus that
passes still does. -/
theorem inspect_looser (w : Workspace) (s s' : Policy) (root : Path) (paths : List Path)
    (looser : s'.LooserThan s) (noNul : ∀ p ∈ paths, p.holdsNul = false) :
    ∃ report report', (inspect w s.settings root paths).outcome = .ok report ∧
      (inspect w s'.settings root paths).outcome = .ok report' ∧
      report'.summaries = report.summaries ∧
      (report'.findings.map Finding.withoutExcess).Sublist
        (report.findings.map Finding.withoutExcess) ∧
      (report.isEmpty = true → report'.isEmpty = true) := by
  have hread : ∀ p ∈ paths, ∀ fault, w.outline p = .error fault → fault.isUnreadable = true :=
    fun p hp fault => Workspace.isUnreadable_of_outline (noNul p hp)
  exact ⟨_, _, inspect_outcome s root hread, inspect_outcome s' root hread, rfl,
    Report.findings_looser looser _, Report.isEmpty_looser looser⟩

/-- One file with too many scenarios for either ceiling, one name twice and an empty cell. -/
theorem inspect_looser_one_file :
    let w : Workspace :=
      ⟨⟨[(["a"], .file (Text.Utf8.encode "Scenario: s\nScenario: s\n| |".toList))]⟩, []⟩
    let s : Policy := { Policy.default with ceiling := 0 }
    let s' : Policy :=
      { Policy.default with ceiling := 1, withinFile := false, checkCells := false }
    let root := Path.ofNames ["a"]
    s'.LooserThan s ∧
      ∃ report report', (inspect w s.settings root [root]).outcome = .ok report ∧
        (inspect w s'.settings root [root]).outcome = .ok report' ∧
        report'.summaries = report.summaries ∧
        (report'.findings.map Finding.withoutExcess).Sublist
          (report.findings.map Finding.withoutExcess) ∧
        (report.isEmpty = true → report'.isEmpty = true) := by
  intro w s s' root
  have hlooser : s'.LooserThan s := ⟨by decide, rfl, by decide, by decide⟩
  exact ⟨hlooser, inspect_looser w s s' root [root] hlooser (by decide)⟩

end Inspection

end FeatureLint
