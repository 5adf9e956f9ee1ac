import FeatureLint.Inspection
import FeatureLint.Proofs.IndexRuns
import FeatureLint.Proofs.Walks

/-!
# What an inspection reads

An inspection goes through its paths in order, and each becomes a `Reading`.  With settings of the
right types nothing can stop it but a path that holds a NUL: a file that cannot be read is a reading
like any other.  So the report is a function of the sorted paths (`inspect_outcome`), and what is
said about reports further on starts from there.

The register of a run is two runs of an index, one over the descriptions of the files that could be
read and one over the names of their scenarios (`register_features`, `register_scenarios`).

`Policy` is the settings of the right types.  `sort_insert` says that sorting puts one more path
somewhere and moves nothing else, also if several paths stand at one place of the order.
-/

namespace FeatureLint

/-! ### Settings of the right types -/

/-- Settings with a whole number for a ceiling and truth values for flags. -/
structure Policy where
  ceiling : Int
  failOnFindings : Bool
  caseSensitive : Bool
  withinFile : Bool
  checkCells : Bool
  nameFilter : NameFilter
  passedOver : List Scalar

namespace Policy

def settings (s : Policy) : Settings where
  ceiling := .int s.ceiling
  failOnFindings := .bool s.failOnFindings
  caseSensitive := .bool s.caseSensitive
  withinFile := .bool s.withinFile
  checkCells := .bool s.checkCells
  nameFilter := s.nameFilter
  passedOver := s.passedOver

def form (s : Policy) : String → String := nameForm s.caseSensitive

def default : Policy where
  ceiling := 100
  failOnFindings := true
  caseSensitive := true
  withinFile := true
  checkCells := true
  nameFilter := .pattern .dotFeature
  passedOver := Settings.foreignDirectories.map .text

end Policy

/-! ### Sorting paths -/

namespace Path

theorem le_total (p q : Path) : (p.le q || q.le p) = true := by
  rw [Bool.or_eq_true, le, le, Bool.not_eq_true', Bool.not_eq_true', List.lex_eq_false_iff_ge,
    List.lex_eq_false_iff_ge]
  exact List.le_total p.parts q.parts

theorem le_trans (p q r : Path) (hpq : p.le q = true) (hqr : q.le r = true) : p.le r = true := by
  rw [le, Bool.not_eq_true', List.lex_eq_false_iff_ge] at *
  exact List.le_trans hpq hqr

@[simp] theorem mem_sort {p : Path} {paths : List Path} : p ∈ sort paths ↔ p ∈ paths :=
  List.mem_mergeSort

theorem sort_perm (paths : List Path) : (sort paths).Perm paths := List.mergeSort_perm paths le

theorem sort_pairwise (paths : List Path) : (sort paths).Pairwise fun p q => p.le q = true :=
  List.pairwise_mergeSort le_trans le_total paths

theorem sort_cons (p : Path) (paths : List Path) :
    sort (p :: paths) =
      (sort paths).takeWhile (fun q => !p.le q)
        ++ p :: (sort paths).dropWhile fun q => !p.le q := by
  obtain ⟨l₁, l₂, hcons, hpaths, hl₁⟩ := List.mergeSort_cons le_trans le_total p paths
  have hl₂ : ∀ q ∈ l₂, (!p.le q) = false := by
    intro q hq
    have hsorted := sort_pairwise (p :: paths)
    rw [sort, hcons, List.pairwise_append] at hsorted
    simpa using List.rel_of_pairwise_cons hsorted.2.1 hq
  rw [sort, sort, hcons, hpaths, takeWhile_append_of_neg l₁ hl₂, dropWhile_append_of_neg l₁ hl₂,
    List.takeWhile_eq_self_iff.mpr hl₁, List.dropWhile_eq_nil_iff.mpr hl₁, List.nil_append]

/-- **Sorting puts one more path somewhere**, and moves nothing else. -/
theorem sort_insert (before after : List Path) (q : Path) :
    ∃ first second, sort (before ++ after) = first ++ second ∧
      sort (before ++ q :: after) = first ++ q :: second := by
  induction before with
  | nil =>
    rw [List.nil_append, List.nil_append, sort_cons]
    exact ⟨_, _, List.takeWhile_append_dropWhile.symm, rfl⟩
  | cons p before ih =>
    obtain ⟨first, second, hwithout, hwith⟩ := ih
    have hsorted := sort_pairwise (before ++ q :: after)
    rw [hwith, List.pairwise_append, List.pairwise_cons] at hsorted
    obtain ⟨-, ⟨hsecond, -⟩, hfirst⟩ := hsorted
    rw [List.cons_append, List.cons_append, sort_cons, sort_cons, hwithout, hwith]
    by_cases hpq : p.le q = true
    · -- what comes behind `q` comes behind `p` too, so `p` goes somewhere in front of `q`
      have hbehind : ∀ r ∈ q :: second, (!p.le r) = false := by
        intro r hr
        rcases List.mem_cons.mp hr with rfl | hr
        · simp [hpq]
        · simp [le_trans p q r hpq (hsecond r hr)]
      rw [takeWhile_append_of_neg first hbehind, dropWhile_append_of_neg first hbehind,
        takeWhile_append_of_neg first fun r hr => hbehind r (List.mem_cons_of_mem q hr),
        dropWhile_append_of_neg first fun r hr => hbehind r (List.mem_cons_of_mem q hr)]
      exact ⟨first.takeWhile (fun r => !p.le r) ++ p :: first.dropWhile (fun r => !p.le r), second,
        by simp, by simp⟩
    · -- what comes in front of `q` comes in front of `p` too, so `p` goes somewhere behind `q`
      have hfront : ∀ r ∈ first, (!p.le r) = true := by
        intro r hr
        rw [Bool.not_eq_true']
        refine Bool.eq_false_iff.mpr fun hpr => hpq ?_
        exact le_trans p r q hpr (hfirst r hr q List.mem_cons_self)
      rw [List.takeWhile_append_of_pos hfront, List.dropWhile_append_of_pos hfront,
        List.takeWhile_append_of_pos hfront, List.dropWhile_append_of_pos hfront,
        List.takeWhile_cons, List.dropWhile_cons, if_pos (by simp [hpq]), if_pos (by simp [hpq])]
      exact ⟨first, second.takeWhile (fun r => !p.le r) ++ p :: second.dropWhile (fun r => !p.le r),
        by simp, by simp⟩

end Path

/-! ### Going through the paths -/

theorem Logged.each_outcome {α β : Type} {f : α → Logged β} {g : α → β} {l : List α}
    (h : ∀ a ∈ l, (f a).outcome = .ok (g a)) : (each f l).outcome = .ok (l.map g) := by
  induction l with
  | nil => rfl
  | cons a l ih =>
    have ha := h a List.mem_cons_self
    have hl := ih fun b hb => h b (List.mem_cons_of_mem a hb)
    simp [each, andThen, ha, hl, ok]

namespace Workspace

variable {w : Workspace} {p : Path}

theorem read_eq_error {fault : Fault} (hp : p.holdsNul = false) (h : w.read p = .error fault) :
    ∃ cause, fault = .system cause p := by
  rw [read, hp, if_neg Bool.false_ne_true] at h
  split at h
  · cases h
  · cases h
    exact ⟨.isDirectory, rfl⟩
  · rename_i cause hcause
    cases h
    exact ⟨cause, rfl⟩

/-- The only thing wrong with a path that can come of reading it, if it holds no NUL, is that it
leads to nothing that can be read. -/
theorem isUnreadable_of_outline {fault : Fault} (hp : p.holdsNul = false)
    (h : w.outline p = .error fault) : fault.isUnreadable = true := by
  rw [outline] at h
  split at h
  · rename_i fault' hread
    cases h
    obtain ⟨cause, rfl⟩ := read_eq_error hp hread
    rfl
  · split at h
    · cases h
      rfl
    · cases h

theorem stat_of_walk {place : Place} {node : Node} (hshort : p.text.utf8ByteSize ≤ Tree.maxPath)
    (hwalk : w.tree.walk false Tree.maxLinks (w.start p) p.names = .ok place)
    (hnode : w.tree.get? place = some node) : w.stat p = .ok node := by
  have hlocate : w.locate p = .ok place := by
    rw [locate, locateTo, if_neg (Nat.not_lt.mpr hshort), hwalk]
  rw [stat, hlocate]
  simp only [hnode]

theorem stat_name {name : String} {node : Node}
    (hcwd : w.tree.get? w.cwd = some .dir) (hnode : w.tree.get? (w.cwd ++ [name]) = some node)
    (hlink : ∀ target, node ≠ .link target) (hname : Tree.isProper name = true)
    (hshort : name.utf8ByteSize ≤ Tree.maxName) : w.stat (.ofNames [name]) = .ok node := by
  have hwalk : w.tree.walk false Tree.maxLinks w.cwd [name] = .ok (w.cwd ++ [name]) := by
    rw [Tree.walk_name hcwd hnode hlink hname hshort, Tree.walk]
  have hpath : name.utf8ByteSize ≤ Tree.maxPath := by
    simp only [Tree.maxName, Tree.maxPath] at *
    omega
  exact stat_of_walk (by rwa [Path.text_ofNames_singleton]) hwalk hnode

theorem isFile?_of_stat {octets : List UInt8} (hp : p.holdsNul = false)
    (h : w.stat p = .ok (.file octets)) : w.isFile? p = .ok true := by
  rw [isFile?, node?, hp, h]
  rfl

end Workspace

namespace Inspection

def readingOf (w : Workspace) (root p : Path) : Reading :=
  ⟨fileId root p, (w.outline p).mapError Fault.message⟩

theorem visit_outcome {w : Workspace} {ceiling : Int} {root p : Path}
    (h : ∀ fault, w.outline p = .error fault → fault.isUnreadable = true) :
    (visit w (.int ceiling) root p).outcome = .ok (readingOf w root p) := by
  rw [visit, readingOf]
  cases houtline : w.outline p with
  | error fault => simp [h fault houtline, Except.mapError]
  | ok o => simp [Value.number?, Scalar.number?, Except.mapError]

/-- **The report on files**: what is to be said of the readings, in the order of the paths. -/
theorem inspect_outcome {w : Workspace} (s : Policy) (root : Path) {paths : List Path}
    (h : ∀ p ∈ paths, ∀ fault, w.outline p = .error fault → fault.isUnreadable = true) :
    (inspect w s.settings root paths).outcome =
      .ok (.ofReadings s.settings ((Path.sort paths).map (readingOf w root))) := by
  have hreadings : (readings w s.settings.ceiling root paths).outcome =
      .ok ((Path.sort paths).map (readingOf w root)) :=
    Logged.each_outcome fun p hp => visit_outcome (h p (Path.mem_sort.mp hp))
  simp [inspect, Logged.andThen, hreadings, Logged.ok]

end Inspection

/-! ### The register of a run -/

namespace Reading

def descriptions (r : Reading) : List String :=
  match r.outline? with
  | some o => o.feature.toList
  | none => []

def names (r : Reading) : List String :=
  match r.outline? with
  | some o => o.names
  | none => []

theorem enter_features (register : Register) (r : Reading) :
    (enter register r).features =
      register.features.addUses (r.descriptions.map (Use.mk · r.file)) := by
  rw [enter, descriptions]
  cases r.outline? with
  | none => rfl
  | some o =>
    have hadd : (register.add r.file o.feature o.names).features =
        (register.addFeature r.file o.feature).features := rfl
    simp only [hadd]
    cases o.feature <;> rfl

theorem enter_scenarios (register : Register) (r : Reading) :
    (enter register r).scenarios = register.scenarios.addUses (r.names.map (Use.mk · r.file)) := by
  rw [enter, names]
  cases r.outline? with
  | none => rfl
  | some o =>
    have hadd : (register.addFeature r.file o.feature).scenarios = register.scenarios := by
      cases o.feature <;> rfl
    simp [Register.add, Register.addScenarios, hadd, Index.addAll, Index.addUses, List.foldl_map]

end Reading

namespace Report

/-- **The descriptions of a run** go into one index, file by file. -/
theorem register_features (s : Settings) (readings : List Reading) :
    (register s readings).features =
      Index.ofUses (nameForm s.caseSensitive.isTruthy) false
        (readings.flatMap fun r => r.descriptions.map (Use.mk · r.file)) :=
  Index.foldl_addUses Reading.enter_features _ readings

theorem register_scenarios (s : Settings) (readings : List Reading) :
    (register s readings).scenarios =
      Index.ofUses (nameForm s.caseSensitive.isTruthy) s.withinFile.isTruthy
        (readings.flatMap fun r => r.names.map (Use.mk · r.file)) :=
  Index.foldl_addUses Reading.enter_scenarios _ readings

end Report

end FeatureLint
