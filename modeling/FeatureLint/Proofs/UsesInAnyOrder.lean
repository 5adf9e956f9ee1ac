import FeatureLint.Proofs.GrowingCorpus
import Mathlib.Data.List.Sort
import Mathlib.Data.String.Basic

/-!
# Uses in any order

The uses of names may reach an index in any order: file by file, whichever file comes first, or the
files mixed.  What the index knows of a class depends on the order in two places, the spelling in
front and the order of the tally.  The tally is sorted before it is shown, so the files of a name
are the same whatever the order was (`Index.files_perm`).  The spelling is shown, and the duplicates
are sorted by it, so it is all that the order can change: what is told of each class is the same
(`Index.told_perm`), and where the same spellings are shown the whole lists are the same
(`Index.duplicates_eq_of_keys`).  With letter case a class has one spelling, so nothing changes.

* `Index.agrees_of_perm`: two indices that know the same uses agree but for spellings.
* `Index.ofUses_perm`: **the order of uses and of files changes nothing else.**
-/

namespace FeatureLint

variable {form : String → String} {withinFile : Bool} {uses uses' : List Use} {d d' : Duplicate}

theorem usesOf_perm (h : uses.Perm uses') (k : String) :
    (usesOf form uses k).Perm (usesOf form uses' k) := h.filter _

theorem Repeated.perm (hrepeated : Repeated withinFile uses) (h : uses.Perm uses') :
    Repeated withinFile uses' := by
  rcases hrepeated with ⟨u, hu, v, hv, hne⟩ | ⟨hwithin, hlength⟩
  · exact .inl ⟨u, h.mem_iff.mp hu, v, h.mem_iff.mp hv, hne⟩
  · exact .inr ⟨hwithin, h.length_eq ▸ hlength⟩

namespace Duplicate

/-- What a duplicate tells of a class: its form, and the files that use it. -/
def told (form : String → String) (d : Duplicate) : String × List String := (form d.key, d.files)

def Before (d d' : Duplicate) : Prop := d.key < d'.key

instance : Std.Antisymm Before := ⟨fun _ _ h h' => absurd h' (String.lt_asymm h)⟩

end Duplicate

namespace Index

/-- What two indices have in common that know the same uses. -/
structure Agrees (caseSensitive : Bool) (ix ix' : Index) : Prop where
  /-- With letter case the lists are the same. -/
  matching : caseSensitive = true → ix.duplicates = ix'.duplicates
  told : (ix.duplicates.map (Duplicate.told (nameForm caseSensitive))).Perm
    (ix'.duplicates.map (Duplicate.told (nameForm caseSensitive)))
  nodup : (ix.duplicates.map (Duplicate.told (nameForm caseSensitive))).Nodup
  /-- Where the same spellings are shown, the lists are the same. -/
  shown : ix.duplicates.map Duplicate.key ⊆ ix'.duplicates.map Duplicate.key →
    ix.duplicates = ix'.duplicates
  files : ∀ key, ix.files key = ix'.files key

theorem pairwise_before : (ofUses form withinFile uses).duplicates.Pairwise Duplicate.Before :=
  duplicates_pairwise

theorem files_pairwise_of_mem (hd : d ∈ (ofUses form withinFile uses).duplicates) :
    d.files.Pairwise (· < ·) := by
  obtain ⟨k, e, he, -, rfl⟩ := mem_duplicates.mp hd
  exact Entry.files_pairwise he

theorem files_pairwise (key : String) :
    ((ofUses form withinFile uses).files key).Pairwise (· < ·) := by
  rw [files, get?, getElem?_ofUses]
  split
  · rename_i e he
    exact Entry.files_pairwise he
  · exact List.Pairwise.nil

theorem told_nodup :
    ((ofUses form withinFile uses).duplicates.map (Duplicate.told form)).Nodup := by
  refine List.Nodup.map_on (fun d hd d' hd' htold => ?_) nodup_duplicates
  exact eq_of_form_eq hd hd' (congrArg Prod.fst htold)

section Perm

variable (h : uses.Perm uses')

include h

theorem files_perm (key : String) :
    (ofUses form withinFile uses).files key = (ofUses form withinFile uses').files key := by
  refine (files_pairwise key).eq_of_mem_iff (files_pairwise key) fun file => ?_
  rw [mem_files, mem_files]
  exact exists_congr fun u => and_congr_left' (usesOf_perm h _).mem_iff

theorem exists_told (hd : d ∈ (ofUses form withinFile uses).duplicates) :
    ∃ d' ∈ (ofUses form withinFile uses').duplicates, d'.told form = d.told form := by
  obtain ⟨hrepeated, -, hfiles⟩ := mem_duplicates_class hd
  obtain ⟨d', hd', hform⟩ := exists_duplicate (hrepeated.perm (usesOf_perm h (form d.key)))
  obtain ⟨-, -, hfiles'⟩ := mem_duplicates_class hd'
  have hsame : d'.files = d.files := by
    refine (files_pairwise_of_mem hd').eq_of_mem_iff (files_pairwise_of_mem hd) fun file => ?_
    rw [hfiles, hfiles', hform]
    exact exists_congr fun u => and_congr_left' (usesOf_perm h _).mem_iff.symm
  exact ⟨d', hd', Prod.ext hform hsame⟩

/-- **The same classes are told**, with the same files. -/
theorem told_perm :
    ((ofUses form withinFile uses).duplicates.map (Duplicate.told form)).Perm
      ((ofUses form withinFile uses').duplicates.map (Duplicate.told form)) := by
  refine (List.perm_ext_iff_of_nodup told_nodup told_nodup).mpr fun told => ?_
  rw [List.mem_map, List.mem_map]
  constructor
  · rintro ⟨d, hd, rfl⟩
    exact exists_told h hd
  · rintro ⟨d, hd, rfl⟩
    exact exists_told h.symm hd

theorem mem_duplicates_of_key (hd : d ∈ (ofUses form withinFile uses).duplicates)
    (hd' : d' ∈ (ofUses form withinFile uses').duplicates) (hkey : d'.key = d.key) : d = d' := by
  obtain ⟨d'', hd'', htold⟩ := exists_told h hd
  have hsame : d'' = d' :=
    eq_of_form_eq hd'' hd' ((congrArg Prod.fst htold).trans (congrArg form hkey.symm))
  have hfiles : d'.files = d.files := hsame ▸ congrArg Prod.snd htold
  rw [Duplicate.mk.injEq]
  exact ⟨hkey.symm, hfiles.symm⟩

theorem duplicates_eq_of_keys
    (hkeys : (ofUses form withinFile uses).duplicates.map Duplicate.key ⊆
      (ofUses form withinFile uses').duplicates.map Duplicate.key) :
    (ofUses form withinFile uses).duplicates = (ofUses form withinFile uses').duplicates := by
  have hsub : (ofUses form withinFile uses).duplicates ⊆
      (ofUses form withinFile uses').duplicates := by
    intro d hd
    obtain ⟨d', hd', hkey⟩ := List.mem_map.mp (hkeys (List.mem_map_of_mem hd))
    rwa [mem_duplicates_of_key h hd hd' hkey]
  -- both lists have one member for each class
  have hlength : (ofUses form withinFile uses').duplicates.length ≤
      (ofUses form withinFile uses).duplicates.length := by
    have htold : ((ofUses form withinFile uses).duplicates.map (Duplicate.told form)).Perm
        ((ofUses form withinFile uses').duplicates.map (Duplicate.told form)) := told_perm h
    simpa using htold.length_eq.ge
  have hperm := (List.subperm_of_subset nodup_duplicates hsub).perm_of_length_le hlength
  exact hperm.eq_of_pairwise' pairwise_before pairwise_before

theorem agrees_of_perm (caseSensitive : Bool) :
    Agrees caseSensitive (ofUses (nameForm caseSensitive) withinFile uses)
      (ofUses (nameForm caseSensitive) withinFile uses') where
  matching := by
    rintro rfl
    refine duplicates_eq_of_keys h fun key hkey => ?_
    obtain ⟨d, hd, rfl⟩ := List.mem_map.mp hkey
    obtain ⟨d', hd', htold⟩ := exists_told h hd
    -- with letter case the form of a name is the name
    have hsame : d'.key = d.key := congrArg Prod.fst htold
    exact hsame ▸ List.mem_map_of_mem hd'
  told := told_perm h
  nodup := told_nodup
  shown := duplicates_eq_of_keys h
  files := files_perm h

end Perm

/-- Uses that are the same file by file are the same, however the files were mixed. -/
theorem perm_of_filter_perm
    (h : ∀ file, (uses.filter (·.file = file)).Perm (uses'.filter (·.file = file))) :
    uses.Perm uses' := by
  rw [List.perm_iff_count]
  intro u
  have hcount : ∀ uses : List Use, (uses.filter (·.file = u.file)).count u = uses.count u :=
    fun uses => List.count_filter (by simp)
  rw [← hcount uses, ← hcount uses', (h u.file).count_eq]

/-- **The order of uses and of files changes nothing else.**  Two indices that were told the same
uses, each as often, in whatever order, agree but for the spellings without letter case.  It is
enough that each file told them the same uses, however the files were mixed; and in a register the
files may come in any order. -/
theorem ofUses_perm (caseSensitive withinFile : Bool) :
    (∀ uses uses' : List Use, uses.Perm uses' →
        Agrees caseSensitive (ofUses (nameForm caseSensitive) withinFile uses)
          (ofUses (nameForm caseSensitive) withinFile uses')) ∧
      (∀ uses uses' : List Use,
        (∀ file, (uses.filter (·.file = file)).Perm (uses'.filter (·.file = file))) →
          Agrees caseSensitive (ofUses (nameForm caseSensitive) withinFile uses)
            (ofUses (nameForm caseSensitive) withinFile uses')) ∧
      ∀ readings readings' : List Reading, readings.Perm readings' →
        let enterAll := List.foldl Reading.enter (.new (nameForm caseSensitive) withinFile)
        Agrees caseSensitive (enterAll readings).features (enterAll readings').features ∧
          Agrees caseSensitive (enterAll readings).scenarios (enterAll readings').scenarios := by
  refine ⟨fun _ _ h => agrees_of_perm h caseSensitive,
    fun _ _ h => agrees_of_perm (perm_of_filter_perm h) caseSensitive,
    fun readings readings' h => ?_⟩
  intro enterAll
  have hfeatures : ∀ readings, (enterAll readings).features =
      ofUses (nameForm caseSensitive) false
        (readings.flatMap fun r => r.descriptions.map (Use.mk · r.file)) :=
    fun readings => foldl_addUses Reading.enter_features _ readings
  have hscenarios : ∀ readings, (enterAll readings).scenarios =
      ofUses (nameForm caseSensitive) withinFile
        (readings.flatMap fun r => r.names.map (Use.mk · r.file)) :=
    fun readings => foldl_addUses Reading.enter_scenarios _ readings
  rw [hfeatures, hfeatures, hscenarios, hscenarios]
  exact ⟨agrees_of_perm (h.flatMap_right _) caseSensitive,
    agrees_of_perm (h.flatMap_right _) caseSensitive⟩

/-- Another spelling comes first, and is shown. -/
theorem ofUses_perm_capital_first :
    let uses : List Use := [⟨"one", "a"⟩, ⟨"Two", "a"⟩, ⟨"one", "b"⟩, ⟨"two", "b"⟩]
    let uses' : List Use := [⟨"two", "b"⟩, ⟨"one", "b"⟩, ⟨"one", "a"⟩, ⟨"Two", "a"⟩]
    let ix := ofUses (nameForm false) true uses
    let ix' := ofUses (nameForm false) true uses'
    uses.Perm uses' ∧ Agrees false ix ix' ∧
      ix.entries["two"]?.map Entry.spelling = some "Two" ∧
      ix'.entries["two"]?.map Entry.spelling = some "two" := by
  intro uses uses' ix ix'
  have hperm : uses.Perm uses' := by decide
  exact ⟨hperm, (ofUses_perm false true).1 uses uses' hperm, by decide +kernel, by decide +kernel⟩

end Index

end FeatureLint
