import FeatureLint.Proofs.PathTexts
import FeatureLint.Proofs.ReportParts

/-!
# Files that are called alike

A report calls a file by the path from the root to it, and a file that does not stand below the root
by its own path.  The two ways can meet.  If `r` is the root, then `r/a.feature` is called
`a.feature`, and so is the file `a.feature` next to the root; and if the root is itself a file, it
is called by its name, which may be the path of another file.  `CalledAlike` has these two cases,
and `fileId_eq_iff` says that there is no third one among files that can be read: nothing stands
below a file, so a root that is a file is not called like something below it.

An index tells files apart by what they are called.  A description that several files have is
therefore reported exactly if two of them are not called alike (`inspect_duplicateFeature_iff`); two
files called alike count as one (`inspect_calledAlike`).
-/

namespace FeatureLint

/-! ### What files are called -/

namespace Path

variable {root p q : Path} {names : List String}

theorem namesFrom?_eq_some : root.namesFrom? p = some names ↔ p = root / ofNames names := by
  obtain ⟨anchor, list⟩ := p
  show _ ↔ (⟨anchor, list⟩ : Path) = ⟨root.anchor, root.names ++ names⟩
  simp only [namesFrom?, Option.ite_none_right_eq_some, Option.some.injEq, Path.mk.injEq,
    List.isPrefixOf_iff_prefix]
  constructor
  · rintro ⟨⟨hanchor, hprefix⟩, rfl⟩
    exact ⟨hanchor, List.prefix_iff_eq_append.mp hprefix |>.symm⟩
  · rintro ⟨hanchor, rfl⟩
    exact ⟨⟨hanchor, List.prefix_append _ _⟩, by simp⟩

theorem root_or_below_or_outside (root p : Path) :
    p = root ∨ (∃ names, names ≠ [] ∧ p = root / ofNames names) ∨ root.namesFrom? p = none := by
  cases hnames : root.namesFrom? p with
  | none => exact Or.inr (Or.inr rfl)
  | some names =>
    have hp := namesFrom?_eq_some.mp hnames
    by_cases hne : names = []
    · left
      rw [hp, hne]
      show (⟨root.anchor, root.names ++ []⟩ : Path) = root
      rw [List.append_nil]
    · exact Or.inr (Or.inl ⟨names, hne, hp⟩)

theorem Spelled.below (h : (root / ofNames names).Spelled) : (ofNames names).Spelled where
  areNames := h.areNames.subset (List.subset_append_right root.names names)
  notEmpty := fun hmem => h.notEmpty (List.mem_append_right root.names hmem)
  notHere := fun hmem => h.notHere (List.mem_append_right root.names hmem)

theorem name_mem (h : root.names ≠ []) : root.name ∈ root.names := by
  rw [name, List.getLastD_eq_getLast?, List.getLast?_eq_getLast_of_ne_nil h]
  exact List.getLast_mem h

theorem Spelled.name (hroot : root.Spelled) (h : root.names ≠ []) :
    (ofNames [root.name]).Spelled where
  areNames := hroot.areNames.subset (List.cons_subset.mpr ⟨name_mem h, List.nil_subset _⟩)
  notEmpty := fun hmem => hroot.notEmpty (List.mem_singleton.mp hmem ▸ name_mem h)
  notHere := fun hmem => hroot.notHere (List.mem_singleton.mp hmem ▸ name_mem h)

theorem Spelled.text_ne_empty (hp : p.Spelled) : p.text ≠ "" := by
  intro hempty
  have hp' : p = ofString "" := by rw [← hempty, ofString_text hp]
  rw [hp'] at hempty
  exact absurd hempty (by decide +kernel)

end Path

section FileId

variable {root p q : Path} {names names' : List String}

theorem fileId_root (root : Path) : fileId root root = root.name := by
  rw [fileId, if_pos rfl]

theorem fileId_below_text (root : Path) (h : names ≠ []) :
    fileId root (root / Path.ofNames names) = (Path.ofNames names).text := by
  rw [fileId_below root h]
  simp [Path.ofNames, Path.text, Path.Anchor.text, h]

theorem fileId_outside (h : root.namesFrom? p = none) : fileId root p = p.text := by
  have hroot : p ≠ root := by
    rintro rfl
    simp [Path.namesFrom?] at h
  rw [fileId, if_neg hroot, h]

/-- `CalledAlike root p q` says that `q` is a path outside of the root that looks like the path from
the root to `p`, or like the name of the root if that is `p`. -/
inductive CalledAlike (root : Path) : Path → Path → Prop
  | below {names : List String} : names ≠ [] → root.namesFrom? (.ofNames names) = none →
      CalledAlike root (root / Path.ofNames names) (.ofNames names)
  | itself : root.namesFrom? (.ofNames [root.name]) = none →
      CalledAlike root root (.ofNames [root.name])

theorem CalledAlike.fileId_eq (h : CalledAlike root p q) : fileId root p = fileId root q := by
  cases h with
  | below hne hout => rw [fileId_below_text root hne, fileId_outside hout]
  | itself hout => rw [fileId_root, fileId_outside hout, Path.text_ofNames_singleton]

theorem eq_ofNames_of_name_eq (hroot : root.Spelled) (hq : q.Spelled) (h : root.name = q.text) :
    q = .ofNames [root.name] := by
  have hne : root.names ≠ [] := by
    intro he
    have hname : root.name = "" := by rw [Path.name, he]; rfl
    exact hq.text_ne_empty (by rw [← h, hname])
  exact Path.text_injective hq (hroot.name hne) (by rw [← h, Path.text_ofNames_singleton])

theorem calledAlike_root (hroot : root.Spelled) (hq : q.Spelled) (hout : root.namesFrom? q = none)
    (h : fileId root root = fileId root q) : CalledAlike root root q := by
  rw [fileId_root, fileId_outside hout] at h
  obtain rfl := eq_ofNames_of_name_eq hroot hq h
  exact .itself hout

theorem calledAlike_below (hne : names ≠ []) (hp : (root / Path.ofNames names).Spelled)
    (hq : q.Spelled) (hout : root.namesFrom? q = none)
    (h : fileId root (root / Path.ofNames names) = fileId root q) :
    CalledAlike root (root / Path.ofNames names) q := by
  rw [fileId_below_text root hne, fileId_outside hout] at h
  obtain rfl := Path.text_injective hp.below hq h
  exact .below hne hout

end FileId

/-! ### Nothing stands below a file -/

/-- A path that goes on behind a file leads nowhere. -/
theorem Tree.walk_through_file {t : Tree} {links : Nat} {here place : Place} {names : List String}
    {octets : List UInt8} (h : t.walk false links here names = .ok place)
    (hfile : t.get? place = some (.file octets)) (name : String) (rest : List String) :
    t.walk false links here (names ++ name :: rest) = .error .notDirectory := by
  obtain ⟨left, hleads⟩ := leads_of_walk h
  rw [hleads.walk_append (name :: rest) (.inr ⟨_, hfile⟩), walk, hfile]

namespace Workspace

variable {w : Workspace} {p root : Path} {o : Outline} {names : List String}

theorem walk_of_outline (h : w.outline p = .ok o) :
    ∃ place octets, w.tree.walk false Tree.maxLinks (w.start p) p.names = .ok place ∧
      w.tree.get? place = some (.file octets) := by
  obtain ⟨octets, hread⟩ : ∃ octets, w.read p = .ok octets := by
    rw [outline] at h
    split at h
    · cases h
    · exact ⟨_, ‹_›⟩
  obtain ⟨place, hplace, hfile⟩ := stat_eq_ok.mp (read_eq_ok.mp hread).2
  obtain ⟨-, left, hleads⟩ := leads_of_locateTo hplace
  exact ⟨place, octets, hleads.walk, hfile⟩

/-- **Nothing stands below a file.** -/
theorem outline_below_ne_ok (h : w.outline root = .ok o) (hne : names ≠ []) (o' : Outline) :
    w.outline (root / Path.ofNames names) ≠ .ok o' := by
  intro h'
  obtain ⟨place, octets, hwalk, hfile⟩ := walk_of_outline h
  obtain ⟨place', -, hwalk', -⟩ := walk_of_outline h'
  obtain ⟨name, rest, rfl⟩ := List.exists_cons_of_ne_nil hne
  have hthrough := Tree.walk_through_file hwalk hfile name rest
  have hstart : w.start (root / Path.ofNames (name :: rest)) = w.start root := rfl
  have hnames : (root / Path.ofNames (name :: rest)).names = root.names ++ name :: rest := rfl
  rw [hstart, hnames, hthrough] at hwalk'
  cases hwalk'

end Workspace

/-- **Which files are called the same**, among those that can be read. -/
theorem fileId_eq_iff {w : Workspace} {root p q : Path} {o o' : Outline} (hroot : root.Spelled)
    (hp : p.Spelled) (hq : q.Spelled) (ho : w.outline p = .ok o) (ho' : w.outline q = .ok o') :
    fileId root p = fileId root q ↔ p = q ∨ CalledAlike root p q ∨ CalledAlike root q p := by
  constructor
  · -- each path is the root, below it or outside, and two of one kind are told apart by the text
    intro h
    rcases Path.root_or_below_or_outside root p with rfl | ⟨names, hne, rfl⟩ | hout
    · rcases Path.root_or_below_or_outside p q with rfl | ⟨names, hne, rfl⟩ | hout
      · exact Or.inl rfl
      · exact absurd ho' (Workspace.outline_below_ne_ok ho hne o')
      · exact Or.inr (Or.inl (calledAlike_root hroot hq hout h))
    · rcases Path.root_or_below_or_outside root q with rfl | ⟨names', hne', rfl⟩ | hout
      · exact absurd ho (Workspace.outline_below_ne_ok ho' hne o)
      · rw [fileId_below_text root hne, fileId_below_text root hne'] at h
        exact Or.inl (congrArg (root / ·) (Path.text_injective hp.below hq.below h))
      · exact Or.inr (Or.inl (calledAlike_below hne hp hq hout h))
    · rcases Path.root_or_below_or_outside root q with rfl | ⟨names, hne, rfl⟩ | hout'
      · exact Or.inr (Or.inr (calledAlike_root hroot hp hout h.symm))
      · exact Or.inr (Or.inr (calledAlike_below hne hq hp hout h.symm))
      · rw [fileId_outside hout, fileId_outside hout'] at h
        exact Or.inl (Path.text_injective hp hq h)
  · rintro (rfl | h | h)
    · rfl
    · exact h.fileId_eq
    · exact h.fileId_eq.symm

/-! ### Descriptions that several files have -/

namespace Index

variable {form : String → String} {withinFile : Bool} {uses : List Use} {dup : Duplicate}

/-- A duplicate is told by a class that is used more than once: its name is the first of the class,
and its files are those of the class. -/
theorem mem_duplicates_class (h : dup ∈ (ofUses form withinFile uses).duplicates) :
    Repeated withinFile (usesOf form uses (form dup.key)) ∧ Text.isBlankText dup.key = false ∧
      ∀ file, file ∈ dup.files ↔ ∃ u ∈ usesOf form uses (form dup.key), u.file = file := by
  obtain ⟨k, e, he, hrepeated, rfl⟩ := mem_duplicates.mp h
  obtain ⟨u, hu, hspelling⟩ := Option.map_eq_some_iff.mp (Entry.ofUses_eq_some.mp he).1
  have hblank := (mem_usesOf.mp (List.mem_of_mem_head? hu)).2.1
  simp only [form_spelling he]
  rw [hspelling] at hblank
  exact ⟨hrepeated, hblank, fun file => Entry.mem_files he⟩

theorem exists_duplicate {k : String} (h : Repeated withinFile (usesOf form uses k)) :
    ∃ dup ∈ (ofUses form withinFile uses).duplicates, form dup.key = k := by
  obtain ⟨e, he⟩ := exists_entry h
  exact ⟨_, mem_duplicates.mpr ⟨k, e, he, h, rfl⟩, form_spelling he⟩

end Index

/-- A file can be read, and its description is one name with `d`. -/
def Workspace.HasDescription (w : Workspace) (form : String → String) (p : Path) (d : String) :
    Prop :=
  ∃ o, w.outline p = .ok o ∧ ∃ d' ∈ o.feature, SameName form d d'

/-- A finding says that several files have the description `d`. -/
def Finding.ReportsFeature (form : String → String) (d : String) (f : Finding) : Prop :=
  f.kind = .duplicateFeature ∧ ∃ key ∈ f.key, SameName form d key

namespace Inspection

section Features

variable {w : Workspace} {s : Policy} {root : Path} {paths : List Path} {d : String}

def descriptionUses (w : Workspace) (root : Path) (paths : List Path) : List Use :=
  (paths.map (readingOf w root)).flatMap fun r => r.descriptions.map (Use.mk · r.file)

theorem features_register :
    (Report.register s.settings (paths.map (readingOf w root))).features =
      .ofUses s.form false (descriptionUses w root paths) :=
  Report.register_features s.settings _

theorem exists_use_description (hd : Text.isBlankText d = false) (file : String) :
    (∃ u ∈ usesOf s.form (descriptionUses w root paths) (s.form d), u.file = file) ↔
      ∃ p ∈ paths, fileId root p = file ∧ w.HasDescription s.form p d := by
  simp only [descriptionUses, mem_usesOf, mem_usesOfFiles, List.mem_map]
  constructor
  · rintro ⟨u, ⟨⟨_, ⟨p, hp, rfl⟩, hkey, hfile⟩, hblank, hform⟩, rfl⟩
    obtain ⟨o, ho, hdescription⟩ := mem_descriptions_readingOf.mp hkey
    exact ⟨p, hp, hfile.symm, o, ho, u.key, hdescription, hd, hblank, hform.symm⟩
  · rintro ⟨p, hp, rfl, o, ho, d', hd', hsame⟩
    have hkey : d' ∈ (readingOf w root p).descriptions :=
      mem_descriptions_readingOf.mpr ⟨o, ho, hd'⟩
    exact ⟨⟨d', fileId root p⟩, ⟨⟨_, ⟨p, hp, rfl⟩, hkey, rfl⟩, hsame.2.1, hsame.2.2.symm⟩, rfl⟩

theorem exists_duplicate_of_reportsFeature {f : Finding}
    (hf : f ∈ (Report.ofReadings s.settings (paths.map (readingOf w root))).findings)
    (hd : f.ReportsFeature s.form d) :
    Text.isBlankText d = false ∧
      ∃ dup ∈ (Index.ofUses s.form false (descriptionUses w root paths)).duplicates,
        s.form dup.key = s.form d ∧ f = dup.finding .duplicateFeature := by
  obtain ⟨hkind, key, hkey, hsame⟩ := hd
  obtain ⟨dup, hdup, rfl⟩ := (Report.mem_findings.mp hf).of_feature hkind
  rw [features_register] at hdup
  obtain rfl : dup.key = key := Option.some.inj hkey
  exact ⟨hsame.1, dup, hdup, hsame.2.2.symm, rfl⟩

theorem mem_files_of_reportsFeature {f : Finding}
    (hf : f ∈ (Report.ofReadings s.settings (paths.map (readingOf w root))).findings)
    (hd : f.ReportsFeature s.form d) (file : String) :
    file ∈ f.files ↔ ∃ p ∈ paths, fileId root p = file ∧ w.HasDescription s.form p d := by
  obtain ⟨hblank, dup, hdup, hform, rfl⟩ := exists_duplicate_of_reportsFeature hf hd
  obtain ⟨-, -, hfiles⟩ := Index.mem_duplicates_class hdup
  rw [hform] at hfiles
  exact (hfiles file).trans (exists_use_description hblank file)

theorem exists_reportsFeature_iff :
    (∃ f ∈ (Report.ofReadings s.settings (paths.map (readingOf w root))).findings,
        f.ReportsFeature s.form d) ↔
      ∃ p ∈ paths, ∃ q ∈ paths, fileId root p ≠ fileId root q ∧
        w.HasDescription s.form p d ∧ w.HasDescription s.form q d := by
  constructor
  · rintro ⟨f, hf, hd⟩
    obtain ⟨hblank, dup, hdup, hform, rfl⟩ := exists_duplicate_of_reportsFeature hf hd
    obtain ⟨hrepeated, -, -⟩ := Index.mem_duplicates_class hdup
    rw [hform] at hrepeated
    rcases hrepeated with ⟨u, hu, v, hv, hne⟩ | ⟨hwithin, -⟩
    · obtain ⟨p, hp, hpfile, hpd⟩ := (exists_use_description hblank u.file).mp ⟨u, hu, rfl⟩
      obtain ⟨q, hq, hqfile, hqd⟩ := (exists_use_description hblank v.file).mp ⟨v, hv, rfl⟩
      exact ⟨p, hp, q, hq, by rwa [hpfile, hqfile], hpd, hqd⟩
    · cases hwithin
  · rintro ⟨p, hp, q, hq, hne, hpd, hqd⟩
    have hblank : Text.isBlankText d = false := by
      obtain ⟨o, -, d', -, hsame⟩ := hpd
      exact hsame.1
    obtain ⟨u, hu, hufile⟩ := (exists_use_description hblank _).mpr ⟨p, hp, rfl, hpd⟩
    obtain ⟨v, hv, hvfile⟩ := (exists_use_description hblank _).mpr ⟨q, hq, rfl, hqd⟩
    have hfile : u.file ≠ v.file := by rwa [hufile, hvfile]
    have hrepeated : Repeated false (usesOf s.form (descriptionUses w root paths) (s.form d)) :=
      Or.inl ⟨u, hu, v, hv, hfile⟩
    obtain ⟨dup, hdup, hform⟩ := Index.exists_duplicate hrepeated
    obtain ⟨-, hkey, -⟩ := Index.mem_duplicates_class hdup
    rw [← features_register] at hdup
    exact ⟨_, Report.mem_findings.mpr (.feature hdup), rfl, dup.key, rfl, hblank, hkey, hform.symm⟩

end Features

/-- **A description that several files have is reported exactly if two of them are not called
alike**, and then the finding names all files that have it. -/
theorem inspect_duplicateFeature_iff (w : Workspace) (s : Policy) (root : Path) (paths : List Path)
    (spelled : ∀ p ∈ root :: paths, p.Spelled) (noNul : ∀ p ∈ paths, p.holdsNul = false) :
    ∃ report, (inspect w s.settings root paths).outcome = .ok report ∧ ∀ d,
      ((∃ f ∈ report.findings, f.ReportsFeature s.form d) ↔
        ∃ p ∈ paths, ∃ q ∈ paths, p ≠ q ∧ w.HasDescription s.form p d ∧
          w.HasDescription s.form q d ∧ ¬ CalledAlike root p q ∧ ¬ CalledAlike root q p) ∧
      ∀ f ∈ report.findings, f.ReportsFeature s.form d → ∀ file,
        file ∈ f.files ↔ ∃ p ∈ paths, fileId root p = file ∧ w.HasDescription s.form p d := by
  obtain ⟨hroot, hpaths⟩ := List.forall_mem_cons.mp spelled
  have hread : ∀ p ∈ paths, ∀ fault, w.outline p = .error fault → fault.isUnreadable = true :=
    fun p hp fault => Workspace.isUnreadable_of_outline (noNul p hp)
  refine ⟨_, inspect_outcome s root hread, fun d => ⟨?_, ?_⟩⟩
  · rw [exists_reportsFeature_iff]
    simp only [Path.mem_sort]
    constructor
    · rintro ⟨p, hp, q, hq, hne, hpd, hqd⟩
      refine ⟨p, hp, q, hq, fun he => hne (he ▸ rfl), hpd, hqd, fun h => hne h.fileId_eq,
        fun h => hne h.fileId_eq.symm⟩
    · rintro ⟨p, hp, q, hq, hne, ⟨o, ho, hpd⟩, ⟨o', ho', hqd⟩, hpq, hqp⟩
      refine ⟨p, hp, q, hq, fun he => ?_, ⟨o, ho, hpd⟩, ⟨o', ho', hqd⟩⟩
      rcases (fileId_eq_iff hroot (hpaths p hp) (hpaths q hq) ho ho').mp he with h | h | h
      · exact hne h
      · exact hpq h
      · exact hqp h
  · intro f hf hd file
    rw [mem_files_of_reportsFeature hf hd]
    simp only [Path.mem_sort]

/-- Two files below the root and one outside of it, with one description. -/
theorem inspect_duplicateFeature_iff_three_files :
    let octets := Text.Utf8.encode "Feature: one".toList
    let w : Workspace := ⟨⟨[(["r"], .dir), (["r", "a"], .file octets), (["r", "b"], .file octets),
      (["a"], .file octets)]⟩, []⟩
    let root := Path.ofString "r"
    let paths := ["a", "r/a", "r/b"].map Path.ofString
    (∀ p ∈ root :: paths, p.Spelled) ∧ (∀ p ∈ paths, p.holdsNul = false) ∧
      ∃ report, (inspect w Policy.default.settings root paths).outcome = .ok report ∧ ∀ d,
        ((∃ f ∈ report.findings, f.ReportsFeature Policy.default.form d) ↔
          ∃ p ∈ paths, ∃ q ∈ paths, p ≠ q ∧ w.HasDescription Policy.default.form p d ∧
            w.HasDescription Policy.default.form q d ∧ ¬ CalledAlike root p q ∧
            ¬ CalledAlike root q p) ∧
        ∀ f ∈ report.findings, f.ReportsFeature Policy.default.form d → ∀ file,
          file ∈ f.files ↔
            ∃ p ∈ paths, fileId root p = file ∧ w.HasDescription Policy.default.form p d := by
  intro octets w root paths
  have hspelled : ∀ p ∈ root :: paths, p.Spelled :=
    List.forall_mem_cons.mpr ⟨Path.spelled_ofString "r", fun p => Path.spelled_of_mem_map⟩
  have hnul : ∀ p ∈ paths, p.holdsNul = false := by decide +kernel
  exact ⟨hspelled, hnul, inspect_duplicateFeature_iff w Policy.default root paths hspelled hnul⟩

/-- **Two files that are called alike count as one**, here `a` and `r/a` if `r` is the root: they
have one description, and the report does not say so. -/
theorem inspect_calledAlike :
    let octets := Text.Utf8.encode "Feature: one".toList
    let w : Workspace := ⟨⟨[(["a"], .file octets), (["r"], .dir), (["r", "a"], .file octets)]⟩, []⟩
    let p := Path.ofString "a"
    let q := Path.ofString "r/a"
    p ≠ q ∧ w.HasDescription Policy.default.form p "one" ∧
      w.HasDescription Policy.default.form q "one" ∧
      ∃ report, (inspect w Policy.default.settings (.ofString "r") [p, q]).outcome = .ok report ∧
        ¬ ∃ f ∈ report.findings, f.ReportsFeature Policy.default.form "one" := by
  intro octets w p q
  have hoctets : Outline.ofOctets octets = .ok ⟨some "one", [], 0, [], []⟩ := by decide +kernel
  have hpstat : w.stat p = .ok (.file octets) := by
    rw [show p = .ofNames ["a"] by decide +kernel]
    exact Workspace.stat_name rfl rfl (by simp) (by decide) (by decide)
  have hqstat : w.stat q = .ok (.file octets) := by
    have hwalk : w.tree.walk false Tree.maxLinks [] ["r", "a"] = .ok ["r", "a"] := by
      have hr : w.tree.get? ([] ++ ["r"]) = some .dir := rfl
      have ha : w.tree.get? (["r"] ++ ["a"]) = some (.file octets) := rfl
      rw [Tree.walk_name rfl hr (by simp) (by decide) (by decide),
        Tree.walk_name hr ha (by simp) (by decide) (by decide), Tree.walk]
      rfl
    rw [show q = .ofNames ["r", "a"] by decide +kernel]
    exact Workspace.stat_of_walk (by decide +kernel) hwalk rfl
  have hp := Workspace.outline_of_stat (by decide +kernel) hpstat hoctets
  have hq := Workspace.outline_of_stat (by decide +kernel) hqstat hoctets
  have hsame : SameName Policy.default.form "one" "one" := ⟨by decide, by decide, rfl⟩
  have hread : ∀ p' ∈ [p, q], ∀ fault, w.outline p' = .error fault →
      fault.isUnreadable = true := by
    intro p' hp' fault
    exact Workspace.isUnreadable_of_outline (by revert p'; decide +kernel)
  have hcalled : ∀ p' ∈ [p, q], fileId (.ofString "r") p' = "a" := by decide +kernel
  refine ⟨by decide +kernel, ⟨_, hp, "one", rfl, hsame⟩, ⟨_, hq, "one", rfl, hsame⟩, _,
    inspect_outcome Policy.default (.ofString "r") hread, ?_⟩
  rw [exists_reportsFeature_iff]
  rintro ⟨p', hp', q', hq', hne, -⟩
  exact hne ((hcalled p' (Path.mem_sort.mp hp')).trans (hcalled q' (Path.mem_sort.mp hq')).symm)

end Inspection

end FeatureLint
