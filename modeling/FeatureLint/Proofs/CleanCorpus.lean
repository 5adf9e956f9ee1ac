import FeatureLint.Proofs.FoundFiles
import FeatureLint.Proofs.Readings

/-!
# When a corpus passes

A report without findings says that nothing is wrong with a corpus.  This file says what that is, in
terms of the files alone (`Clean`): all of them can be read, none has too many scenarios, no two
have one description or share a name, no file has a name twice if that is looked for, and no cell is
empty if that is looked for.  `inspectAll_isEmpty_iff` says that a report is empty exactly then.

A report is empty if each of its four parts is, and each part is taken by itself.  For the two parts
on names `duplicates_ofFiles_eq_nil` goes from the counts that an index keeps for what files are
called to pairs of files; it needs that no two files are called the same, which is so in a
well-formed tree, and edits make no other (`Workspace.Made.wellFormed`).
-/

namespace FeatureLint

/-! ### Names that clash -/

/-- Two names that are one name by their forms, and not names of blanks. -/
def SameName (form : String → String) (a b : String) : Prop :=
  Text.isBlankText a = false ∧ Text.isBlankText b = false ∧ form a = form b

theorem SameName.symm {form : String → String} {a b : String} (h : SameName form a b) :
    SameName form b a := ⟨h.2.1, h.1, h.2.2.symm⟩

theorem pairwise_not_sameName {form : String → String} {l : List String} :
    (l.Pairwise fun a b => ¬ SameName form a b) ↔
      ∀ (i j : Nat) (a b : String), i ≠ j → l[i]? = some a → l[j]? = some b →
        ¬ SameName form a b := by
  rw [List.pairwise_iff_getElem]
  constructor
  · intro h i j a b hij ha hb
    obtain ⟨hi, rfl⟩ := List.getElem?_eq_some_iff.mp ha
    obtain ⟨hj, rfl⟩ := List.getElem?_eq_some_iff.mp hb
    rcases Nat.lt_or_gt_of_ne hij with hlt | hgt
    · exact h i j hi hj hlt
    · exact fun hsame => h j i hj hi hgt hsame.symm
  · intro h i j hi hj hij
    exact h i j l[i] l[j] (by omega) (List.getElem?_eq_getElem hi) (List.getElem?_eq_getElem hj)

theorem mem_usesOf_form {form : String → String} {uses : List Use} {u v : Use} (hu : u ∈ uses)
    (hv : v ∈ uses) (h : SameName form u.key v.key) :
    u ∈ usesOf form uses (form u.key) ∧ v ∈ usesOf form uses (form u.key) :=
  ⟨mem_usesOf.mpr ⟨hu, h.1, rfl⟩, mem_usesOf.mpr ⟨hv, h.2.1, h.2.2.symm⟩⟩

theorem sameName_of_mem_usesOf {form : String → String} {uses : List Use} {k : String} {u v : Use}
    (hu : u ∈ usesOf form uses k) (hv : v ∈ usesOf form uses k) : SameName form u.key v.key := by
  obtain ⟨-, hublank, hukey⟩ := mem_usesOf.mp hu
  obtain ⟨-, hvblank, hvkey⟩ := mem_usesOf.mp hv
  exact ⟨hublank, hvblank, hukey.trans hvkey.symm⟩

theorem forall_not_two_files {form : String → String} {uses : List Use} :
    (∀ k, ¬ ∃ u ∈ usesOf form uses k, ∃ v ∈ usesOf form uses k, u.file ≠ v.file) ↔
      ∀ u ∈ uses, ∀ v ∈ uses, u.file ≠ v.file → ¬ SameName form u.key v.key := by
  constructor
  · intro h u hu v hv hfile hsame
    obtain ⟨hu', hv'⟩ := mem_usesOf_form hu hv hsame
    exact h (form u.key) ⟨u, hu', v, hv', hfile⟩
  · rintro h k ⟨u, hu, v, hv, hfile⟩
    exact h u (mem_usesOf.mp hu).1 v (mem_usesOf.mp hv).1 hfile (sameName_of_mem_usesOf hu hv)

theorem forall_not_two_uses {form : String → String} {uses : List Use} :
    (∀ k, ¬ 2 ≤ (usesOf form uses k).length) ↔
      uses.Pairwise fun u v => ¬ SameName form u.key v.key := by
  rw [List.pairwise_iff_forall_sublist]
  constructor
  · intro h u v hsub hsame
    have hpair : [u, v].Sublist (usesOf form uses (form u.key)) := by
      have hfilter : usesOf form [u, v] (form u.key) = [u, v] := by
        simp [usesOf, hsame.1, hsame.2.1, hsame.2.2]
      rw [← hfilter]
      exact hsub.filter _
    exact h (form u.key) hpair.length_le
  · intro h k hlength
    obtain ⟨u, v, rest, huses⟩ : ∃ u v rest, usesOf form uses k = u :: v :: rest := by
      rcases huses : usesOf form uses k with _ | ⟨u, _ | ⟨v, rest⟩⟩
      · simp [huses] at hlength
      · simp [huses] at hlength
      · exact ⟨u, v, rest, rfl⟩
    have hu : u ∈ usesOf form uses k := by rw [huses]; simp
    have hv : v ∈ usesOf form uses k := by rw [huses]; simp
    have hsub : [u, v].Sublist uses := by
      have hpair : [u, v].Sublist (usesOf form uses k) := by rw [huses]; simp
      exact hpair.trans List.filter_sublist
    exact h hsub (sameName_of_mem_usesOf hu hv)

section Files

variable {α : Type} {form : String → String} {withinFile : Bool} {files : List α}
  {called : α → String} {names : α → List String}

theorem mem_usesOfFiles {u : Use} :
    (u ∈ files.flatMap fun a => (names a).map (Use.mk · (called a))) ↔
      ∃ a ∈ files, u.key ∈ names a ∧ u.file = called a := by
  simp only [List.mem_flatMap, List.mem_map]
  constructor
  · rintro ⟨a, ha, n, hn, rfl⟩
    exact ⟨a, ha, hn, rfl⟩
  · rintro ⟨a, ha, hkey, hfile⟩
    exact ⟨a, ha, u.key, hkey, by rw [← hfile]⟩

/-- **No name is reported** if no two files share one and, if files are looked into, no file has one
twice. -/
theorem duplicates_ofFiles_eq_nil (hcalled : (files.map called).Nodup) :
    (Index.ofUses form withinFile
        (files.flatMap fun a => (names a).map (Use.mk · (called a)))).duplicates = [] ↔
      (∀ a ∈ files, ∀ b ∈ files, a ≠ b → ∀ m ∈ names a, ∀ n ∈ names b, ¬ SameName form m n) ∧
        (withinFile = true →
          ∀ a ∈ files, (names a).Pairwise fun m n => ¬ SameName form m n) := by
  have hinj : ∀ a ∈ files, ∀ b ∈ files, called a = called b → a = b :=
    fun a ha b hb => List.inj_on_of_nodup_map hcalled ha hb
  have hparts : ∀ uses : List Use, (Index.ofUses form withinFile uses).duplicates = [] ↔
      (∀ u ∈ uses, ∀ v ∈ uses, u.file ≠ v.file → ¬ SameName form u.key v.key) ∧
        (withinFile = true → uses.Pairwise fun u v => ¬ SameName form u.key v.key) := by
    intro uses
    rw [Index.duplicates_eq_nil, ← forall_not_two_files, ← forall_not_two_uses]
    simp only [Repeated, not_or, forall_and, not_and]
    exact and_congr_right fun _ => forall_comm
  rw [hparts]
  constructor
  · rintro ⟨hcross, hwithin⟩
    refine ⟨?_, fun hw a ha => ?_⟩
    · intro a ha b hb hab m hm n hn
      exact hcross ⟨m, called a⟩ (mem_usesOfFiles.mpr ⟨a, ha, hm, rfl⟩)
        ⟨n, called b⟩ (mem_usesOfFiles.mpr ⟨b, hb, hn, rfl⟩) fun he => hab (hinj a ha b hb he)
    · exact List.pairwise_map.mp ((List.pairwise_flatMap.mp (hwithin hw)).1 a ha)
  · rintro ⟨hcross, hwithin⟩
    refine ⟨?_, fun hw => List.pairwise_flatMap.mpr ⟨fun a ha => ?_, ?_⟩⟩
    · intro u hu v hv hfile
      obtain ⟨a, ha, hukey, hufile⟩ := mem_usesOfFiles.mp hu
      obtain ⟨b, hb, hvkey, hvfile⟩ := mem_usesOfFiles.mp hv
      refine hcross a ha b hb (fun he => hfile ?_) u.key hukey v.key hvkey
      rw [hufile, hvfile, he]
    · exact List.pairwise_map.mpr (hwithin hw a ha)
    · -- two files at two places of the list are two files
      refine List.Pairwise.imp_of_mem ?_ (List.Nodup.of_map called hcalled)
      intro a b ha hb hab u hu v hv
      obtain ⟨m, hm, rfl⟩ := List.mem_map.mp hu
      obtain ⟨n, hn, rfl⟩ := List.mem_map.mp hv
      exact hcross a ha b hb hab m hm n hn

end Files

/-! ### The parts of a report -/

theorem Decimal.scaled_ofInt (n : Int) : (Decimal.ofInt n).scaled 0 = n := by
  have hpow : ∀ m : Nat, (m : Int) * (Nat.pow 10 ((0 : Int) + (0 : Nat)).toNat : Nat) = m :=
    fun m => Int.mul_one m
  simp only [Decimal.scaled, Decimal.ofInt, hpow, decide_eq_true_eq]
  split <;> omega

namespace Reading

theorem exceeds_int (count : Nat) (ceiling : Int) :
    exceeds count (.int ceiling) = true ↔ ceiling < count := by
  show (Decimal.ofInt ceiling).lt (Decimal.ofInt count) = true ↔ ceiling < count
  rw [Decimal.lt, show max (-(Decimal.ofInt ceiling).exponent).toNat
    (-(Decimal.ofInt count).exponent).toNat = 0 from rfl]
  simp only [Decimal.scaled_ofInt, decide_eq_true_eq]

theorem finding?_eq_none {r : Reading} {ceiling : Int} :
    r.finding? (.int ceiling) = none ↔ ∃ o, r.result = .ok o ∧ (o.count : Int) ≤ ceiling := by
  rw [finding?]
  cases r.result with
  | error reason => simp
  | ok o =>
    by_cases h : exceeds o.count (.int ceiling) = true
    · simp [h, Int.not_le.mpr ((exceeds_int _ _).mp h)]
    · simp [h, Int.not_lt.mp (mt (exceeds_int _ _).mpr h)]

theorem emptyCellsOf_eq_nil {file : String} {row : Row} :
    emptyCellsOf file row = [] ↔ ∀ cell ∈ row.cells, cell ≠ "" := by
  rw [emptyCellsOf, List.filterMap_eq_nil_iff]
  constructor
  · intro h cell hcell hempty
    obtain ⟨i, hi⟩ := List.getElem?_of_mem hcell
    have hmem : (cell, 1 + i) ∈ row.cells.zipIdx 1 := by
      simp [List.mk_mem_zipIdx_iff_le_and_getElem?_sub, hi]
    simpa [hempty] using h _ hmem
  · rintro h ⟨cell, column⟩ hmem
    simp [h cell (List.fst_mem_of_mem_zipIdx hmem)]

theorem emptyCells_eq_nil {r : Reading} :
    r.emptyCells = [] ↔
      ∀ o, r.outline? = some o → ∀ row ∈ o.rows, ∀ cell ∈ row.cells, cell ≠ "" := by
  rw [emptyCells]
  cases r.outline? with
  | none => simp
  | some o => simp [List.flatMap_eq_nil_iff, emptyCellsOf_eq_nil]

end Reading

namespace Report

theorem isEmpty_ofReadings (s : Settings) (readings : List Reading) :
    (ofReadings s readings).isEmpty = true ↔
      (∀ r ∈ readings, r.finding? s.ceiling = none) ∧
        (register s readings).features.duplicates = [] ∧
        (register s readings).scenarios.duplicates = [] ∧
        (s.checkCells.isTruthy = true → ∀ r ∈ readings, r.emptyCells = []) := by
  rw [isEmpty, List.isEmpty_iff, ofReadings]
  simp only [List.append_eq_nil_iff, List.filterMap_eq_nil_iff, List.map_eq_nil_iff, and_assoc]
  refine and_congr_right fun _ => and_congr_right fun _ => and_congr_right fun _ => ?_
  split
  · rename_i hcheck
    simp [hcheck, List.flatMap_eq_nil_iff]
  · rename_i hcheck
    simp [hcheck]

end Report

/-! ### Clean corpora -/

/-- Nothing is wrong with the files at some paths. -/
structure Clean (w : Workspace) (s : Policy) (paths : List Path) : Prop where
  readable : ∀ p ∈ paths, ∃ o, w.outline p = .ok o
  few : ∀ p ∈ paths, ∀ o, w.outline p = .ok o → (o.count : Int) ≤ s.ceiling
  /-- No two files have one description. -/
  descriptions : ∀ p ∈ paths, ∀ q ∈ paths, p ≠ q → ∀ o o', w.outline p = .ok o →
    w.outline q = .ok o' → ∀ d ∈ o.feature, ∀ d' ∈ o'.feature, ¬ SameName s.form d d'
  /-- No two files have a name in common. -/
  names : ∀ p ∈ paths, ∀ q ∈ paths, p ≠ q → ∀ o o', w.outline p = .ok o →
    w.outline q = .ok o' → ∀ n ∈ o.names, ∀ n' ∈ o'.names, ¬ SameName s.form n n'
  /-- No file has a name twice, if that is looked for. -/
  namesWithin : s.withinFile = true → ∀ p ∈ paths, ∀ o, w.outline p = .ok o →
    ∀ (i j : Nat) (n n' : String), i ≠ j → o.names[i]? = some n → o.names[j]? = some n' →
      ¬ SameName s.form n n'
  cells : s.checkCells = true → ∀ p ∈ paths, ∀ o, w.outline p = .ok o →
    ∀ row ∈ o.rows, ∀ cell ∈ row.cells, cell ≠ ""

theorem Clean.subset {w : Workspace} {s : Policy} {paths paths' : List Path}
    (h : Clean w s paths) (hsub : paths' ⊆ paths) : Clean w s paths' where
  readable := fun p hp => h.readable p (hsub hp)
  few := fun p hp => h.few p (hsub hp)
  descriptions := fun p hp q hq => h.descriptions p (hsub hp) q (hsub hq)
  names := fun p hp q hq => h.names p (hsub hp) q (hsub hq)
  namesWithin := fun hw p hp => h.namesWithin hw p (hsub hp)
  cells := fun hc p hp => h.cells hc p (hsub hp)

theorem clean_sort {w : Workspace} {s : Policy} {paths : List Path} :
    Clean w s (Path.sort paths) ↔ Clean w s paths :=
  ⟨fun h => h.subset fun _ => Path.mem_sort.mpr, fun h => h.subset fun _ => Path.mem_sort.mp⟩

namespace Inspection

section ReadingOf

variable {w : Workspace} {root p : Path}

@[simp] theorem readingOf_file : (readingOf w root p).file = fileId root p := rfl

theorem readingOf_result {o : Outline} :
    (readingOf w root p).result = .ok o ↔ w.outline p = .ok o := by
  rw [readingOf]
  cases w.outline p <;> simp [Except.mapError]

theorem readingOf_error {reason : String} :
    (readingOf w root p).result = .error reason ↔
      ∃ fault, w.outline p = .error fault ∧ fault.message = reason := by
  rw [readingOf]
  cases w.outline p <;> simp [Except.mapError]

theorem readingOf_outline? (root : Path) {o : Outline} :
    (readingOf w root p).outline? = some o ↔ w.outline p = .ok o := by
  rw [Reading.outline?, readingOf]
  cases w.outline p <;> simp [Except.mapError]

theorem mem_descriptions_readingOf {d : String} :
    d ∈ (readingOf w root p).descriptions ↔ ∃ o, w.outline p = .ok o ∧ d ∈ o.feature := by
  simp only [← readingOf_outline? root, Reading.descriptions]
  cases (readingOf w root p).outline? <;> simp

theorem mem_names_readingOf {n : String} :
    n ∈ (readingOf w root p).names ↔ ∃ o, w.outline p = .ok o ∧ n ∈ o.names := by
  simp only [← readingOf_outline? root, Reading.names]
  cases (readingOf w root p).outline? <;> simp

theorem pairwise_names_readingOf {R : String → String → Prop} :
    (readingOf w root p).names.Pairwise R ↔ ∀ o, w.outline p = .ok o → o.names.Pairwise R := by
  simp only [← readingOf_outline? root, Reading.names]
  cases (readingOf w root p).outline? <;> simp

end ReadingOf

section Parts

variable {w : Workspace} {s : Policy} {root : Path} {paths : List Path}

theorem findings_eq_none_iff :
    (∀ r ∈ paths.map (readingOf w root), r.finding? (.int s.ceiling) = none) ↔
      (∀ p ∈ paths, ∃ o, w.outline p = .ok o) ∧
        ∀ p ∈ paths, ∀ o, w.outline p = .ok o → (o.count : Int) ≤ s.ceiling := by
  simp only [List.forall_mem_map, Reading.finding?_eq_none, readingOf_result]
  constructor
  · intro h
    refine ⟨fun p hp => ?_, fun p hp o ho => ?_⟩
    · obtain ⟨o, ho, -⟩ := h p hp
      exact ⟨o, ho⟩
    · obtain ⟨o', ho', hcount⟩ := h p hp
      rw [ho] at ho'
      cases ho'
      exact hcount
  · rintro ⟨hreadable, hfew⟩ p hp
    obtain ⟨o, ho⟩ := hreadable p hp
    exact ⟨o, ho, hfew p hp o ho⟩

theorem features_eq_nil_iff (hcalled : (paths.map (fileId root)).Nodup) :
    (Report.register s.settings (paths.map (readingOf w root))).features.duplicates = [] ↔
      ∀ p ∈ paths, ∀ q ∈ paths, p ≠ q → ∀ o o', w.outline p = .ok o → w.outline q = .ok o' →
        ∀ d ∈ o.feature, ∀ d' ∈ o'.feature, ¬ SameName s.form d d' := by
  rw [Report.register_features, List.flatMap_map]
  simp only [readingOf_file]
  rw [duplicates_ofFiles_eq_nil hcalled]
  simp only [mem_descriptions_readingOf, Bool.false_eq_true, false_implies, and_true]
  constructor
  · intro h p hp q hq hpq o o' ho ho' d hd d' hd'
    exact h p hp q hq hpq d ⟨o, ho, hd⟩ d' ⟨o', ho', hd'⟩
  · rintro h p hp q hq hpq d ⟨o, ho, hd⟩ d' ⟨o', ho', hd'⟩
    exact h p hp q hq hpq o o' ho ho' d hd d' hd'

theorem scenarios_eq_nil_iff (hcalled : (paths.map (fileId root)).Nodup) :
    (Report.register s.settings (paths.map (readingOf w root))).scenarios.duplicates = [] ↔
      (∀ p ∈ paths, ∀ q ∈ paths, p ≠ q → ∀ o o', w.outline p = .ok o → w.outline q = .ok o' →
        ∀ n ∈ o.names, ∀ n' ∈ o'.names, ¬ SameName s.form n n') ∧
      (s.withinFile = true → ∀ p ∈ paths, ∀ o, w.outline p = .ok o →
        ∀ (i j : Nat) (n n' : String), i ≠ j → o.names[i]? = some n → o.names[j]? = some n' →
          ¬ SameName s.form n n') := by
  rw [Report.register_scenarios, List.flatMap_map]
  simp only [readingOf_file]
  rw [duplicates_ofFiles_eq_nil hcalled]
  simp only [mem_names_readingOf, pairwise_names_readingOf, pairwise_not_sameName]
  refine and_congr ⟨?_, ?_⟩ ?_
  · intro h p hp q hq hpq o o' ho ho' n hn n' hn'
    exact h p hp q hq hpq n ⟨o, ho, hn⟩ n' ⟨o', ho', hn'⟩
  · rintro h p hp q hq hpq n ⟨o, ho, hn⟩ n' ⟨o', ho', hn'⟩
    exact h p hp q hq hpq o o' ho ho' n hn n' hn'
  · exact Iff.rfl

theorem cells_eq_nil_iff :
    (∀ r ∈ paths.map (readingOf w root), r.emptyCells = []) ↔
      ∀ p ∈ paths, ∀ o, w.outline p = .ok o → ∀ row ∈ o.rows, ∀ cell ∈ row.cells, cell ≠ "" := by
  simp only [List.forall_mem_map, Reading.emptyCells_eq_nil, readingOf_outline?]

/-- **A report is empty if nothing is wrong**, provided that no two files are called the same. -/
theorem isEmpty_iff_clean (hcalled : (paths.map (fileId root)).Nodup) :
    (Report.ofReadings s.settings (paths.map (readingOf w root))).isEmpty = true ↔
      Clean w s paths := by
  rw [Report.isEmpty_ofReadings, features_eq_nil_iff hcalled, scenarios_eq_nil_iff hcalled,
    cells_eq_nil_iff]
  constructor
  · rintro ⟨hfiles, hfeatures, hscenarios, hcells⟩
    obtain ⟨hreadable, hfew⟩ := findings_eq_none_iff.mp hfiles
    exact ⟨hreadable, hfew, hfeatures, hscenarios.1, hscenarios.2, hcells⟩
  · intro h
    exact ⟨findings_eq_none_iff.mpr ⟨h.readable, h.few⟩, h.descriptions, ⟨h.names, h.namesWithin⟩,
      h.cells⟩

end Parts

/-- **A corpus passes exactly if nothing is wrong with its files.**  Where the files can be found
there is a report, and it is empty if and only if the corpus is clean. -/
theorem inspectAll_isEmpty_iff (w : Workspace) (s : Policy) (root : Path) (paths : List Path)
    (wellFormed : w.tree.WellFormed)
    (found : (Corpus.find w s.nameFilter s.passedOver root).outcome = .ok paths) :
    ∃ report, (inspectAll w s.settings root).outcome = .ok report ∧
      (report.isEmpty = true ↔ Clean w s paths) := by
  have hcalled : ((Path.sort paths).map (fileId root)).Nodup :=
    (((Path.sort_perm paths).map _).nodup_iff).mpr (Corpus.find_fileId_nodup wellFormed found)
  have hread : ∀ p ∈ paths, ∀ fault, w.outline p = .error fault → fault.isUnreadable = true :=
    fun p hp fault => Workspace.isUnreadable_of_outline (Corpus.find_holdsNul found hp)
  refine ⟨_, ?_, (isEmpty_iff_clean hcalled).trans clean_sort⟩
  have hfound : (Corpus.find w s.settings.nameFilter s.settings.passedOver root).outcome =
      .ok paths := found
  simp only [inspectAll, Logged.andThen, hfound, inspect_outcome s root hread]

/-- Two feature files with one description, next to a file of another kind. -/
theorem inspectAll_isEmpty_iff_two_files :
    let octets := Text.Utf8.encode "Feature: one".toList
    let w : Workspace := ⟨⟨[(["a.feature"], .file octets), (["notes"], .file octets),
      (["b.feature"], .file octets)]⟩, []⟩
    let paths : List Path := [.ofNames ["a.feature"], .ofNames ["b.feature"]]
    w.tree.WellFormed ∧
      (Corpus.find w Policy.default.nameFilter Policy.default.passedOver (.ofNames [])).outcome =
        .ok paths ∧
      ∃ report, (inspectAll w Policy.default.settings (.ofNames [])).outcome = .ok report ∧
        (report.isEmpty = true ↔ Clean w Policy.default paths) := by
  intro octets w paths
  have hwellFormed : w.tree.WellFormed := by decide +kernel
  have hwanted : (Corpus.namesBelow w (.ofNames [])).filter (Corpus.isWanted .dotFeature
      Policy.default.passedOver (.ofNames [])) = [["a.feature"], ["b.feature"]] := by
    rw [Corpus.namesBelow, Workspace.locate_here]
    decide +kernel
  have hfiles : ∀ names ∈ [["a.feature"], ["b.feature"]],
      w.isFile? (.ofNames [] / .ofNames names) = .ok true := by
    have ha : w.stat (.ofNames ["a.feature"]) = .ok (.file octets) :=
      Workspace.stat_name rfl rfl (by simp) (by decide) (by decide)
    have hb : w.stat (.ofNames ["b.feature"]) = .ok (.file octets) :=
      Workspace.stat_name rfl rfl (by simp) (by decide) (by decide)
    intro names hnames
    rcases List.mem_cons.mp hnames with rfl | hnames
    · exact Workspace.isFile?_of_stat (by decide) ha
    · rw [List.mem_singleton.mp hnames]
      exact Workspace.isFile?_of_stat (by decide) hb
  have hfound : (Corpus.find w Policy.default.nameFilter Policy.default.passedOver
      (.ofNames [])).outcome = .ok paths := by
    refine (Corpus.find_of_wanted (Workspace.exists?_here rfl) hwanted hfiles).trans ?_
    exact congrArg Except.ok (List.mergeSort_of_pairwise (by decide +kernel))
  exact ⟨hwellFormed, hfound, inspectAll_isEmpty_iff w Policy.default (.ofNames []) paths
    hwellFormed hfound⟩

end Inspection

end FeatureLint
