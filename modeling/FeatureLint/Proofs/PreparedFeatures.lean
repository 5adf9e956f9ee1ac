import FeatureLint.Acceptance.Scenario
import FeatureLint.Proofs.FileLines
import FeatureLint.Proofs.LineMarks
import FeatureLint.Proofs.OneLineTexts
import FeatureLint.Proofs.ReportParts

/-!
# Feature files that a step prepares

A step prepares a feature file with a number of scenarios by writing the path of the file into all
of its names.  The names are meant to be told apart, in one file and between files, whatever the
paths are; a path may itself end like a name, or stand in front of another one.

A name is a stem and a number.  The number can be cut off again, since a stem does not end with a
digit (`cut_digits`), and the stem tells the path, since all stems end alike (`stem_injective`).

What a step leaves is said by looking paths up among the files that are noted (`Scenario.Noted`).

* `Scenario.noted_note`: what is noted is there, and all else is as before.
* `caseName_inj`: a name tells the path and the number.
* `Prepared.exists_outline`: what is read from the file.
* `Prepared.inspect_prepared`: **such files are found at fault for their size alone.**
-/

namespace FeatureLint

/-! ### Lines with a keyword -/

theorem Keyword.isTrimmed_append (k : Keyword) (rest : List Char) :
    Text.IsTrimmed (k.text.toList ++ Text.trimRight rest) where
  head := by cases k <;> simp [Keyword.text, Text.isBlank]
  last := by
    intro c hc
    rw [List.getLast?_append, Option.mem_def, Option.or_eq_some_iff] at hc
    rcases hc with hlast | ⟨-, hlast⟩
    · exact Text.getLast?_trimRight c hlast
    · cases k <;> cases hlast <;> rfl

theorem Line.read_heading {k : Keyword} {line : String} {pad rest : List Char}
    (hpad : ∀ c ∈ pad, Text.isBlank c = true) (hline : line.toList = pad ++ k.text.toList ++ rest) :
    read line = heading k (String.ofList (Text.trim rest)) := by
  obtain ⟨right, hrest, hright⟩ := Text.exists_right_padding rest
  have htitle : Text.trim rest = Text.trim (Text.trimRight rest) := by
    have hpadded : Text.trim ([] ++ Text.trimRight rest ++ right) =
        Text.trim (Text.trimRight rest) := Text.trim_padded (by simp) hright
    rw [List.nil_append, ← hrest] at hpadded
    exact hpadded
  have hstrip : (Text.strip line).toList = k.text.toList ++ Text.trimRight rest := by
    rw [Text.strip, String.toList_ofList, hline, ← Text.trim_of_isTrimmed (k.isTrimmed_append rest)]
    conv_lhs => rw [hrest, ← List.append_assoc, List.append_assoc pad]
    exact Text.trim_padded hpad hright
  rw [read, classify_of_keyword hstrip, htitle]

/-! ### The outline of lines that open scenarios -/

namespace Outline

theorem countP_scenarios {p : Position} (names : List String) :
    (Position.annotate p (names.map (Line.heading .scenario) ++ [.blank])).countP
      (fun (p, line) => p.counts line) = names.length := by
  induction names generalizing p with
  | nil => rfl
  | cons name names ih =>
    rw [List.map_cons, List.cons_append, Position.annotate_cons, List.countP_cons, ih]
    rfl

theorem ofLines_scenarios (d : String) (names : List String) :
    let o := ofLines (.heading .feature d :: (names.map (Line.heading .scenario) ++ [.blank]))
    o.feature = some d ∧ o.names = names ∧ o.count = names.length ∧ o.rows = [] := by
  refine ⟨rfl, ?_, ?_, ?_⟩
  · have hnames : (names.map (Line.heading .scenario)).filterMap Line.name? = names := by
      rw [List.filterMap_map]
      exact List.filterMap_some
    have hfirst : Line.name? (.heading .feature d) = none := rfl
    have hlast : Line.name? .blank = none := rfl
    simp only [ofLines, List.filterMap_cons, hfirst, List.filterMap_append, hnames, hlast,
      List.filterMap_nil, List.append_nil]
  · rw [ofLines, Position.annotate_cons, List.countP_cons, countP_scenarios]
    rfl
  · rw [ofLines, rowsFrom, List.filterMap_eq_nil_iff]
    rintro ⟨line, number⟩ hline
    have hmem := List.fst_mem_of_mem_zipIdx hline
    simp only [List.mem_cons, List.mem_append, List.mem_map, List.not_mem_nil, or_false] at hmem
    rcases hmem with rfl | ⟨name, -, rfl⟩ | rfl <;> rfl

end Outline

/-! ### Names that are all different -/

theorem Index.duplicates_of_nodup {form : String → String} {withinFile : Bool} {uses : List Use}
    (h : (uses.map fun u => form u.key).Nodup) :
    (ofUses form withinFile uses).duplicates = [] := by
  rw [duplicates_eq_nil]
  rintro k (hfiles | ⟨-, htwo⟩)
  · refine forall_not_two_files.mpr (fun u hu v hv hne hsame => hne ?_) k hfiles
    rw [List.inj_on_of_nodup_map h hu hv hsame.2.2]
  · exact forall_not_two_uses.mpr
      ((List.pairwise_map.mp h).imp fun hne hsame => hne hsame.2.2) k htwo

theorem Report.findings_of_nodup {s : Policy} {readings : List Reading}
    (hdescriptions : ((readings.flatMap Reading.descriptions).map s.form).Nodup)
    (hnames : ((readings.flatMap Reading.names).map s.form).Nodup)
    (hcells : ∀ r ∈ readings, r.emptyCells = []) :
    (ofReadings s.settings readings).findings =
      readings.filterMap (Reading.finding? (.int s.ceiling)) := by
  have hform : nameForm s.settings.caseSensitive.isTruthy = s.form := rfl
  have hfeatures : (register s.settings readings).features.duplicates = [] := by
    rw [register_features, hform]
    refine Index.duplicates_of_nodup ?_
    simpa [List.map_flatMap, Function.comp_def] using hdescriptions
  have hscenarios : (register s.settings readings).scenarios.duplicates = [] := by
    rw [register_scenarios, hform]
    refine Index.duplicates_of_nodup ?_
    simpa [List.map_flatMap, Function.comp_def] using hnames
  have hempty : readings.flatMap Reading.emptyCells = [] := List.flatMap_eq_nil_iff.mpr hcells
  simp only [ofReadings, hfeatures, hscenarios, hempty, List.map_nil, List.append_nil, ite_self]
  rfl

namespace Acceptance

/-! ### Names with a number -/

/-- What cannot end with a digit can be told from the digits behind it. -/
theorem cut_digits {stem digits : List Char} (hstem : ∀ c ∈ stem.getLast?, c.isDigit = false)
    (hdigits : ∀ c ∈ digits, c.isDigit = true) :
    ((stem ++ digits).reverse.dropWhile Char.isDigit).reverse = stem := by
  rw [List.reverse_append, List.dropWhile_append_of_pos (by simpa using hdigits)]
  have hhead : stem.reverse.dropWhile Char.isDigit = stem.reverse := by
    rw [← List.head?_reverse] at hstem
    rw [List.dropWhile_eq_self_iff]
    cases hreverse : stem.reverse with
    | nil => simp
    | cons c cs => simpa [hreverse] using hstem
  rw [hhead, List.reverse_reverse]

def stem (path : String) : String := (if path = "" then "" else path ++ " ") ++ "case "

def caseName (path : String) (i : Nat) : String := stem path ++ toString i

theorem stem_injective {path path' : String} (h : stem path = stem path') : path = path' := by
  have hfront : (if path = "" then "" else path ++ " ") =
      if path' = "" then "" else path' ++ " " := by
    have hchars := congrArg String.toList h
    simp only [stem, String.toList_append] at hchars
    exact String.toList_injective (List.append_cancel_right hchars)
  -- Only a path that is not empty has a blank behind it.
  split at hfront <;> split at hfront
  · rename_i hempty hempty'
    rw [hempty, hempty']
  · simp at hfront
  · simp at hfront
  · have hchars := congrArg String.toList hfront
    simp only [String.toList_append] at hchars
    exact String.toList_injective (List.append_cancel_right hchars)

theorem getLast?_stem (path : String) : (stem path).toList.getLast? = some ' ' := by
  have hcase : "case ".toList = ['c', 'a', 's', 'e', ' '] := rfl
  simp [stem, hcase]

/-- **A name tells the path and the number.** -/
theorem caseName_inj {path path' : String} {i j : Nat} :
    caseName path i = caseName path' j ↔ path = path' ∧ i = j := by
  constructor
  · intro h
    have hchars : (stem path).toList ++ (toString i).toList =
        (stem path').toList ++ (toString j).toList := by
      simpa only [caseName, String.toList_append] using congrArg String.toList h
    -- Once the digits are cut off on both sides the stems are left.
    have hlast : ∀ path, ∀ c ∈ (stem path).toList.getLast?, c.isDigit = false := by
      intro path c hc
      rw [getLast?_stem] at hc
      cases hc
      rfl
    have hstem : (stem path).toList = (stem path').toList := by
      rw [← cut_digits (hlast path) fun c => Text.isDigit_of_mem_toString (n := i), hchars,
        cut_digits (hlast path') fun c => Text.isDigit_of_mem_toString]
    rw [hstem] at hchars
    have hdigits : Nat.toDigits 10 i = Nat.toDigits 10 j := by
      simpa [Nat.toString_eq_ofList_toDigits] using List.append_cancel_left hchars
    have hnumber : i = j := by
      rw [← Nat.ofDigitChars_ten_toDigits (n := i), hdigits, Nat.ofDigitChars_ten_toDigits]
    exact ⟨stem_injective (String.toList_injective hstem), hnumber⟩
  · rintro ⟨rfl, rfl⟩
    rfl

theorem isBlank_of_isDigit {c : Char} (h : c.isDigit = true) : Text.isBlank c = false := by
  simp only [Char.isDigit, Bool.and_eq_true, decide_eq_true_eq, UInt32.le_iff_toNat_le] at h
  obtain ⟨hlow, hhigh⟩ := h
  have hlow : 48 ≤ c.toNat := hlow
  have hhigh : c.toNat ≤ 57 := hhigh
  simp [Text.isBlank]
  omega

theorem isTrimmed_caseName {path : String} (h : Text.IsTrimmed path.toList) (i : Nat) :
    Text.IsTrimmed (caseName path i).toList where
  head := by
    intro c hc
    by_cases hempty : path = ""
    · simp only [caseName, stem, hempty, if_true, String.toList_append] at hc
      cases hc
      decide
    · have hne : path.toList ≠ [] := fun hnil => hempty (String.toList_eq_nil_iff.mp hnil)
      simp only [caseName, stem, hempty, if_false, String.toList_append, List.append_assoc] at hc
      rw [List.head?_append_of_ne_nil _ hne] at hc
      exact h.head c hc
  last := by
    intro c hc
    have hne : (toString i).toList ≠ [] := by
      rw [Nat.toString_eq_repr, Nat.toList_repr]
      exact Nat.toDigits_ne_nil
    rw [caseName, String.toList_append, List.getLast?_append_of_ne_nil _ hne] at hc
    exact isBlank_of_isDigit (Text.isDigit_of_mem_toString (List.mem_of_getLast? hc))

/-! ### The lines of a prepared file -/

def featureLines (path : String) (n : Nat) : List String :=
  ("Feature: " ++ path)
    :: ((List.range n).map (fun i => "  Scenario: " ++ path ++ " case " ++ toString i) ++ [""])

theorem join_closed (lines : List String) :
    Text.join "\n" (lines ++ [""]) = String.join (lines.map (· ++ "\n")) := by
  induction lines with
  | nil => rfl
  | cons line lines ih =>
    rw [List.map_cons, String.join_cons, ← ih]
    apply String.toList_injective
    simp only [Text.join, String.toList_intercalate, String.toList_append, List.map_append,
      List.map_cons, List.cons_append]
    rw [List.intercalate_cons_of_ne_nil (by simp), List.append_assoc]

/-- A prepared file holds these lines, each with a line feed behind it. -/
theorem featureText_eq (path : String) (count : Int) :
    Scenario.featureText path count = Text.join "\n" (featureLines path count.toNat) := by
  rw [featureLines, ← List.cons_append, join_closed, List.map_cons, String.join_cons, List.map_map]
  rfl

section Lines

variable {path : String} (hpath : Text.IsTrimmed path.toList)

include hpath

theorem read_featureLine : Line.read ("Feature: " ++ path) = .heading .feature path := by
  have hline : ("Feature: " ++ path).toList =
      [] ++ Keyword.feature.text.toList ++ (' ' :: path.toList) := by
    rw [String.toList_append]
    rfl
  have htitle : Text.trim (' ' :: path.toList) = path.toList := by
    have hpadded : Text.trim ([' '] ++ path.toList ++ []) = Text.trim path.toList :=
      Text.trim_padded (by simp [Text.isBlank]) (by simp)
    rw [List.append_nil, Text.trim_of_isTrimmed hpath] at hpadded
    exact hpadded
  rw [Line.read_heading (by simp) hline, htitle, String.ofList_toList]

theorem read_caseLine (i : Nat) :
    Line.read ("  Scenario: " ++ path ++ " case " ++ toString i) =
      .heading .scenario (caseName path i) := by
  have hline : ("  Scenario: " ++ path ++ " case " ++ toString i).toList =
      "  ".toList ++ Keyword.scenario.text.toList ++
        (" ".toList ++ path.toList ++ " case ".toList ++ (toString i).toList) := by
    simp only [String.toList_append, List.append_assoc]
    rfl
  have hone : ∀ c ∈ " ".toList, Text.isBlank c = true := by simp [Text.isBlank]
  have htwo : ∀ c ∈ "  ".toList, Text.isBlank c = true := by simp [Text.isBlank]
  have htitle : Text.trim (" ".toList ++ path.toList ++ " case ".toList ++ (toString i).toList) =
      (caseName path i).toList := by
    have hpadded : ∃ left, (∀ c ∈ left, Text.isBlank c = true) ∧
        " ".toList ++ path.toList ++ " case ".toList ++ (toString i).toList =
          left ++ (caseName path i).toList := by
      -- Without a path there is one more blank in front.
      by_cases hempty : path = ""
      · exact ⟨"  ".toList, htwo, by simp [caseName, stem, hempty]⟩
      · exact ⟨" ".toList, hone, by simp [caseName, stem, hempty]⟩
    obtain ⟨left, hleft, hchars⟩ := hpadded
    have htrim : Text.trim (left ++ (caseName path i).toList ++ []) =
        Text.trim (caseName path i).toList := Text.trim_padded hleft (by simp)
    rw [List.append_nil, Text.trim_of_isTrimmed (isTrimmed_caseName hpath i)] at htrim
    rw [hchars, htrim]
  rw [Line.read_heading htwo hline, htitle, String.ofList_toList]

theorem map_read_featureLines (n : Nat) :
    (featureLines path n).map Line.read = .heading .feature path ::
      (((List.range n).map (caseName path)).map (Line.heading .scenario) ++ [.blank]) := by
  have hblank : Line.read "" = .blank := by decide
  simp only [featureLines, List.map_cons, List.map_append, List.map_map, Function.comp_def,
    List.map_nil, read_featureLine hpath, read_caseLine hpath, hblank]

end Lines

/-! ### Noted files -/

namespace Scenario

variable {path other : String} {octets : List UInt8} {files : List (String × List UInt8)}

theorem lookup_noteIn_self : (noteIn path octets files).lookup path = some octets := by
  fun_induction noteIn path octets files with
  | case1 => simp
  | case2 old files => simp
  | case3 p old files hne ih =>
    have hp : (path == p) = false := beq_eq_false_iff_ne.mpr (Ne.symm hne)
    rw [List.lookup_cons, hp, ih]

theorem lookup_noteIn_of_ne (h : other ≠ path) :
    (noteIn path octets files).lookup other = files.lookup other := by
  have hother : (other == path) = false := beq_eq_false_iff_ne.mpr h
  fun_induction noteIn path octets files with
  | case1 => rw [List.lookup_cons, hother]
  | case2 old files => simp only [List.lookup_cons, hother]
  | case3 p old files _ ih => simp only [List.lookup_cons, ih]

theorem map_fst_noteIn : (noteIn path octets files).map Prod.fst =
    if path ∈ files.map Prod.fst then files.map Prod.fst else files.map Prod.fst ++ [path] := by
  fun_induction noteIn path octets files with
  | case1 => simp
  | case2 old files => simp
  | case3 p old files hne ih =>
    rw [List.map_cons, ih, List.map_cons]
    by_cases hmem : path ∈ files.map Prod.fst
    · rw [if_pos hmem, if_pos (List.mem_cons_of_mem p hmem)]
    · have hmem' : path ∉ p :: files.map Prod.fst := by
        simp only [List.mem_cons, not_or]
        exact ⟨Ne.symm hne, hmem⟩
      rw [if_neg hmem, if_neg hmem', List.cons_append]

/-- The second scenario is the first one with a file noted: looking the path up gives the new
contents, any other path is looked up as before, and a new path comes last. -/
structure Noted (before : Scenario) (path : String) (octets : List UInt8) (after : Scenario) :
    Prop where
  contents : after.files.lookup path = some octets
  others : ∀ other ≠ path, after.files.lookup other = before.files.lookup other
  paths : after.files.map Prod.fst =
    if path ∈ before.files.map Prod.fst then before.files.map Prod.fst
    else before.files.map Prod.fst ++ [path]
  rest : { after with files := before.files } = before

theorem noted_note (s : Scenario) (path : String) (octets : List UInt8) :
    s.Noted path octets (s.note path octets) where
  contents := lookup_noteIn_self
  others _ h := lookup_noteIn_of_ne h
  paths := map_fst_noteIn
  rest := rfl

end Scenario

/-! ### Prepared files -/

/-- A feature file as a step prepares it, and where it stands. -/
structure Prepared where
  file : Path
  /-- The path that the step names. -/
  path : String
  count : Int

namespace Prepared

variable {f : Prepared} {w : Workspace} {root : Path}

def size (f : Prepared) : Nat := f.count.toNat

def octets (f : Prepared) : List UInt8 :=
  Text.Utf8.encode (Scenario.featureText f.path f.count).toList

/-- The path that the step names is on one line, and there are no blanks at its ends. -/
structure IsNeat (f : Prepared) : Prop where
  noFeed : '\n' ∉ f.path.toList
  noReturn : '\r' ∉ f.path.toList
  trimmed : Text.IsTrimmed f.path.toList

theorem not_mem_featureLines (hf : f.IsNeat) :
    ∀ line ∈ featureLines f.path f.size, '\n' ∉ line.toList ∧ '\r' ∉ line.toList := by
  have hnumber : ∀ i : Nat, '\n' ∉ (toString i).toList ∧ '\r' ∉ (toString i).toList :=
    fun i => ⟨fun h => absurd (Text.isDigit_of_mem_toString h) (by decide),
      fun h => absurd (Text.isDigit_of_mem_toString h) (by decide)⟩
  simp only [featureLines, List.mem_cons, List.mem_append, List.mem_map, List.not_mem_nil,
    or_false]
  rintro line (rfl | ⟨i, -, rfl⟩ | rfl)
  · simp [hf.noFeed, hf.noReturn]
  · obtain ⟨hfeed, hreturn⟩ := hnumber i
    simp only [String.toList_append, List.mem_append, hf.noFeed, hf.noReturn, hfeed, hreturn]
    decide
  · decide

/-- **What is read from a prepared file.** -/
theorem exists_outline (hf : f.IsNeat) :
    ∃ o, Outline.ofOctets f.octets = .ok o ∧ o.feature = some f.path ∧
      o.names = (List.range f.size).map (caseName f.path) ∧ o.count = f.size ∧ o.rows = [] := by
  obtain ⟨hfeature, hnames, hcount, hrows⟩ :=
    Outline.ofLines_scenarios f.path ((List.range f.size).map (caseName f.path))
  rw [List.length_map, List.length_range] at hcount
  refine ⟨_, ?_, hfeature, hnames, hcount, hrows⟩
  have hmark : (Scenario.featureText f.path f.count).toList.head? ≠ some '\uFEFF' := by
    simp [Scenario.featureText]
  have htext : Scenario.featureText f.path f.count = Text.join "\n" (featureLines f.path f.size) :=
    featureText_eq f.path f.count
  rw [Outline.ofOctets, octets, Text.Utf8.decodeMarked_encode hmark, Except.map, htext,
    Outline.read_join (by decide) (not_mem_featureLines hf), Outline.read,
    map_read_featureLines hf.trimmed]

section Reading

variable (hf : f.IsNeat) (hread : w.read f.file = .ok f.octets)

include hf hread

theorem outline_prepared :
    ∃ o, w.outline f.file = .ok o ∧ o.feature = some f.path ∧
      o.names = (List.range f.size).map (caseName f.path) ∧ o.count = f.size ∧ o.rows = [] := by
  obtain ⟨o, ho, hparts⟩ := exists_outline hf
  refine ⟨o, ?_, hparts⟩
  simp only [Workspace.outline, hread, ho]

theorem readingOf_prepared (root : Path) :
    (Inspection.readingOf w root f.file).descriptions = [f.path] ∧
      (Inspection.readingOf w root f.file).names = (List.range f.size).map (caseName f.path) ∧
      (Inspection.readingOf w root f.file).emptyCells = [] := by
  obtain ⟨o, ho, hfeature, hnames, -, hrows⟩ := outline_prepared hf hread
  have hoption := (Inspection.readingOf_outline? root).mpr ho
  refine ⟨?_, ?_, ?_⟩
  · simp [Reading.descriptions, hoption, hfeature]
  · rw [Reading.names, hoption, ← hnames]
  · simp [Reading.emptyCells, hoption, hrows]

theorem finding?_prepared (root : Path) (ceiling : Int) :
    (Inspection.readingOf w root f.file).finding? (.int ceiling) =
      if ceiling < f.size then some (.tooMany (fileId root f.file) f.size (.int ceiling))
      else none := by
  obtain ⟨o, ho, -, -, hcount, -⟩ := outline_prepared hf hread
  have hresult : (Inspection.readingOf w root f.file).result = .ok o :=
    Inspection.readingOf_result.mpr ho
  split
  · rename_i hmany
    rw [← hcount] at hmany ⊢
    exact Reading.finding?_eq_some.mpr (.inr ⟨o, hresult, hmany, rfl⟩)
  · rename_i hfew
    rw [← hcount, not_lt] at hfew
    exact Reading.finding?_eq_none.mpr ⟨o, hresult, hfew⟩

end Reading

theorem nodup_names {files : List Prepared} (distinct : (files.map Prepared.path).Nodup) :
    (files.flatMap fun f => (List.range f.size).map (caseName f.path)).Nodup := by
  rw [List.nodup_flatMap]
  constructor
  · intro f _
    exact List.nodup_range.map fun i j h => (caseName_inj.mp h).2
  · refine (List.pairwise_map.mp distinct).imp fun {f g} hne name hname hname' => ?_
    obtain ⟨i, -, rfl⟩ := List.mem_map.mp hname
    obtain ⟨j, -, hj⟩ := List.mem_map.mp hname'
    exact hne (caseName_inj.mp hj).1.symm

section Family

variable {s : Policy} {files : List Prepared} {readings : List Reading}
  (neat : ∀ f ∈ files, f.IsNeat) (written : ∀ f ∈ files, w.read f.file = .ok f.octets)

include neat written

theorem filterMap_finding? (root : Path) (ceiling : Int) :
    (files.map fun f => Inspection.readingOf w root f.file).filterMap
        (Reading.finding? (.int ceiling)) =
      (files.filter fun f => ceiling < f.size).map fun f =>
        .tooMany (fileId root f.file) f.size (.int ceiling) := by
  rw [List.filterMap_map, ← List.filterMap_eq_filter, List.map_filterMap]
  refine List.filterMap_congr fun f hf => ?_
  rw [Function.comp_apply, finding?_prepared (neat f hf) (written f hf)]
  by_cases hmany : ceiling < f.size
  · simp [Option.guard, hmany]
  · simp [Option.guard, hmany]

theorem findings_prepared (sensitive : s.caseSensitive = true)
    (distinct : (files.map Prepared.path).Nodup)
    (hperm : readings.Perm (files.map fun f => Inspection.readingOf w root f.file)) :
    (Report.ofReadings s.settings readings).findings.Perm
      ((files.filter fun f => s.ceiling < f.size).map fun f =>
        .tooMany (fileId root f.file) f.size (.int s.ceiling)) := by
  have hform : s.form = id := by
    funext name
    rw [Policy.form, nameForm, if_pos sensitive, id]
  have hreading := fun f hf => readingOf_prepared (neat f hf) (written f hf) root
  have hdescriptions : (readings.flatMap Reading.descriptions).Nodup := by
    rw [(hperm.flatMap_right _).nodup_iff, List.flatMap_map,
      List.flatMap_congr fun f hf => (hreading f hf).1, ← List.map_eq_flatMap]
    exact distinct
  have hnames : (readings.flatMap Reading.names).Nodup := by
    rw [(hperm.flatMap_right _).nodup_iff, List.flatMap_map,
      List.flatMap_congr fun f hf => (hreading f hf).2.1]
    exact nodup_names distinct
  have hcells : ∀ r ∈ readings, r.emptyCells = [] := by
    intro r hr
    obtain ⟨f, hf, rfl⟩ := List.mem_map.mp (hperm.subset hr)
    exact (hreading f hf).2.2
  rw [Report.findings_of_nodup (by rwa [hform, List.map_id]) (by rwa [hform, List.map_id]) hcells,
    ← filterMap_finding? neat written root s.ceiling]
  exact hperm.filterMap _

end Family

/-- **Prepared files are found at fault for their size alone.**  Under the path that it names, and no
other, the step leaves a file in which as many scenarios are counted as it says, or none if it says
a negative number.  Among files that steps with different paths have prepared there is nothing to be
found, by letter case, but that some have more scenarios than they may have. -/
theorem inspect_prepared (w : Workspace) (s : Policy) (root : Path) (files : List Prepared)
    (sensitive : s.caseSensitive = true) (distinct : (files.map Prepared.path).Nodup)
    (neat : ∀ f ∈ files, f.IsNeat) (written : ∀ f ∈ files, w.read f.file = .ok f.octets) :
    (∀ f ∈ files,
      (∀ (sc : Scenario) (st : Step),
        Action.ofName? st.role st.name = some (.scenarios f.path f.count) →
          (sc.step st).2 = .passed ∧ sc.Noted f.path f.octets (sc.step st).1) ∧
      ∃ o, Outline.ofOctets f.octets = .ok o ∧ (o.count : Int) = max f.count 0) ∧
    ∃ r, (Inspection.inspect w s.settings root (files.map Prepared.file)).outcome = .ok r ∧
      r.findings.Perm ((files.filter fun f => s.ceiling < max f.count 0).map fun f =>
        .tooMany (fileId root f.file) (max f.count 0).toNat (.int s.ceiling)) := by
  have hsize : ∀ f : Prepared, max f.count 0 = (f.size : Int) := fun f =>
    (Int.ofNat_toNat f.count).symm
  refine ⟨fun f hf => ⟨fun sc st haction => ?_, ?_⟩, ?_⟩
  · have hstep : sc.step st = (sc.note f.path f.octets, .passed) := by
      simp only [Scenario.step, haction, Scenario.perform, octets]
    rw [hstep]
    exact ⟨rfl, sc.noted_note f.path f.octets⟩
  · obtain ⟨o, ho, -, -, hcount, -⟩ := exists_outline (neat f hf)
    exact ⟨o, ho, by rw [hcount, hsize]⟩
  · have houtlines : ∀ p ∈ files.map Prepared.file, ∀ fault, w.outline p = .error fault →
        fault.isUnreadable = true := by
      intro p hp fault hfault
      obtain ⟨f, hf, rfl⟩ := List.mem_map.mp hp
      obtain ⟨o, ho, -⟩ := outline_prepared (neat f hf) (written f hf)
      cases ho.symm.trans hfault
    have hperm : ((Path.sort (files.map Prepared.file)).map (Inspection.readingOf w root)).Perm
        (files.map fun f => Inspection.readingOf w root f.file) := by
      have hsorted := (Path.sort_perm (files.map Prepared.file)).map (Inspection.readingOf w root)
      rwa [List.map_map] at hsorted
    refine ⟨_, Inspection.inspect_outcome s root houtlines, ?_⟩
    simp only [hsize, Int.toNat_natCast]
    exact findings_prepared neat written sensitive distinct hperm

/-- Two files, the path of one of which is a name in the other.  The step that prepares the first
one replaces what was noted for its path, and leaves the other path that was noted. -/
theorem inspect_prepared_two_files :
    let a : Prepared := ⟨.ofNames ["a"], "a", 3⟩
    let b : Prepared := ⟨.ofNames ["a case 1"], "a case 1", 2⟩
    let w : Workspace := ⟨⟨[(["a"], .file a.octets), (["a case 1"], .file b.octets)]⟩, []⟩
    let s : Policy := { Policy.default with ceiling := 2 }
    let sc : Scenario := { Scenario.start [] false with files := [("a", []), ("c", [7])] }
    let st : Step := ⟨.preparation, "the feature file \"a\" with 3 scenarios", none⟩
    s.caseSensitive = true ∧ ([a, b].map Prepared.path).Nodup ∧ (∀ f ∈ [a, b], f.IsNeat) ∧
      (∀ f ∈ [a, b], w.read f.file = .ok f.octets) ∧
      Action.ofName? st.role st.name = some (.scenarios "a" 3) ∧ (sc.step st).2 = .passed ∧
      (sc.step st).1.files.lookup "a" = some a.octets ∧
      (sc.step st).1.files.lookup "c" = some [7] ∧
      (sc.step st).1.files.map Prod.fst = ["a", "c"] ∧
      ∃ r, (Inspection.inspect w s.settings (.ofNames []) [a.file, b.file]).outcome = .ok r ∧
        r.findings.Perm [.tooMany "a" 3 (.int 2)] := by
  intro a b w s sc st
  have hdistinct : ([a, b].map Prepared.path).Nodup := by decide
  have hneat : ∀ f ∈ [a, b], f.IsNeat := by
    simp only [List.mem_cons, List.not_mem_nil, or_false]
    rintro f (rfl | rfl)
    · exact ⟨by decide, by decide, by decide⟩
    · exact ⟨by decide, by decide, by decide⟩
  have hread : ∀ f ∈ [a, b], w.read f.file = .ok f.octets := by
    simp only [List.mem_cons, List.not_mem_nil, or_false]
    rintro f (rfl | rfl)
    · exact Workspace.read_eq_ok.mpr
        ⟨by decide, Workspace.stat_name rfl rfl (by simp) (by decide) (by decide)⟩
    · exact Workspace.read_eq_ok.mpr
        ⟨by decide, Workspace.stat_name rfl rfl (by simp) (by decide) (by decide)⟩
  obtain ⟨hsteps, r, hr, hfindings⟩ :=
    inspect_prepared w s (.ofNames []) [a, b] rfl hdistinct hneat hread
  have haction : Action.ofName? st.role st.name = some (.scenarios "a" 3) := by decide +kernel
  obtain ⟨hpassed, hnoted⟩ := (hsteps a (by simp)).1 sc st haction
  exact ⟨rfl, hdistinct, hneat, hread, haction, hpassed, hnoted.contents,
    hnoted.others "c" (by decide), hnoted.paths, r, hr, hfindings⟩

end Prepared

end Acceptance

end FeatureLint
