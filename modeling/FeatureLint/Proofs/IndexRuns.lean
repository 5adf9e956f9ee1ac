import FeatureLint.Names.Index
import FeatureLint.Proofs.Lists
import Mathlib.Data.Finset.Card
import Mathlib.Data.List.Basic

/-!
# What an index knows after a run

An `Index` takes in the uses of names one by one.  This file says what it knows after any number of
them, in terms of the uses alone.  The uses of names of one form are a *class* (`usesOf`), and the
entry of the class is made of nothing else: its spelling is that of the first use, and its tally has
the files of the class, each with the number of its uses (`getElem?_addUses`, `Entry.ofUses_cons`).

So the entries are told apart twice, by their forms and by their spellings: the form of a spelling
leads back to the entry it belongs to.  That is why no name is reported twice although the
duplicates are ordered by spelling and the entries by form (`duplicates_pairwise`).

* `Entry.mem_files`, `Entry.isDuplicate_iff`: an entry by its class.
* `mem_duplicates`: the duplicates are the classes that are used more than once.
-/

namespace FeatureLint

structure Use where
  key : String
  file : String
  deriving DecidableEq, Repr

/-- The uses of the names of one form, names of blanks apart. -/
def usesOf (form : String → String) (uses : List Use) (k : String) : List Use :=
  uses.filter fun u => !Text.isBlankText u.key && form u.key = k

/-- Uses of one name that make a duplicate: by two files, or, if files are looked into, any two. -/
def Repeated (withinFile : Bool) (uses : List Use) : Prop :=
  (∃ u ∈ uses, ∃ v ∈ uses, u.file ≠ v.file) ∨ (withinFile = true ∧ 2 ≤ uses.length)

def Index.addUses (ix : Index) (uses : List Use) : Index :=
  uses.foldl (fun ix u => ix.add u.key u.file) ix

theorem mem_usesOf {form : String → String} {uses : List Use} {k : String} {u : Use} :
    u ∈ usesOf form uses k ↔ u ∈ uses ∧ Text.isBlankText u.key = false ∧ form u.key = k := by
  simp [usesOf]

theorem usesOf_append (form : String → String) (uses uses' : List Use) (k : String) :
    usesOf form (uses ++ uses') k = usesOf form uses k ++ usesOf form uses' k :=
  List.filter_append uses uses'

/-- More uses of a name make a duplicate all the more, and so does looking into files. -/
theorem Repeated.mono {withinFile withinFile' : Bool} {uses uses' : List Use}
    (h : Repeated withinFile uses) (hwithin : withinFile = true → withinFile' = true)
    (huses : uses.Sublist uses') : Repeated withinFile' uses' := by
  rcases h with ⟨u, hu, v, hv, hne⟩ | ⟨hinto, hlength⟩
  · exact .inl ⟨u, huses.subset hu, v, huses.subset hv, hne⟩
  · exact .inr ⟨hwithin hinto, hlength.trans huses.length_le⟩

/-! ### Tallies -/

namespace Entry

/-- How often each file occurs, in the order of first occurrences. -/
def tally (files : List String) : List (String × Nat) :=
  files.foldl (fun uses file => bump file uses) []

theorem tally_append (files : List String) (file : String) :
    tally (files ++ [file]) = bump file (tally files) := by
  rw [tally, tally, List.foldl_append]
  rfl

theorem mem_map_bump {file f : String} {uses : List (String × Nat)} :
    f ∈ (bump file uses).map Prod.fst ↔ f = file ∨ f ∈ uses.map Prod.fst := by
  induction uses with
  | nil => simp [bump]
  | cons use uses ih =>
    rw [bump]
    split
    · rename_i hfile
      subst hfile
      simp
    · rw [List.map_cons, List.map_cons, List.mem_cons, List.mem_cons, ih]
      exact or_left_comm

theorem nodup_map_bump (file : String) {uses : List (String × Nat)}
    (h : (uses.map Prod.fst).Nodup) : ((bump file uses).map Prod.fst).Nodup := by
  induction uses with
  | nil => simp [bump]
  | cons use uses ih =>
    rw [List.map_cons, List.nodup_cons] at h
    rw [bump]
    split
    · exact List.nodup_cons.mpr h
    · rename_i hfile
      refine List.nodup_cons.mpr ⟨?_, ih h.2⟩
      rw [mem_map_bump]
      rintro (he | hmem)
      · exact hfile he
      · exact h.1 hmem

theorem foldl_add_succ (uses : List (String × Nat)) (n : Nat) :
    uses.foldl (fun n use => n + use.2) (n + 1) =
      uses.foldl (fun n use => n + use.2) n + 1 := by
  induction uses generalizing n with
  | nil => rfl
  | cons use uses ih => rw [List.foldl_cons, List.foldl_cons, ← ih, Nat.add_right_comm]

theorem foldl_bump (file : String) (uses : List (String × Nat)) (n : Nat) :
    (bump file uses).foldl (fun n use => n + use.2) n =
      uses.foldl (fun n use => n + use.2) n + 1 := by
  induction uses generalizing n with
  | nil => rfl
  | cons use uses ih =>
    rw [bump]
    split
    · exact foldl_add_succ uses (n + use.2)
    · exact ih (n + use.2)

theorem mem_map_tally {files : List String} {f : String} :
    f ∈ (tally files).map Prod.fst ↔ f ∈ files := by
  induction files using List.reverseRecOn with
  | nil => rfl
  | append_singleton files file ih =>
    rw [tally_append, mem_map_bump, ih, List.mem_append, List.mem_singleton, or_comm]

theorem nodup_map_tally (files : List String) : ((tally files).map Prod.fst).Nodup := by
  induction files using List.reverseRecOn with
  | nil => exact List.nodup_nil
  | append_singleton files file ih =>
    rw [tally_append]
    exact nodup_map_bump file ih

theorem total_tally (spelling : String) (files : List String) :
    total ⟨spelling, tally files⟩ = files.length := by
  induction files using List.reverseRecOn with
  | nil => rfl
  | append_singleton files file ih =>
    rw [tally_append, total, foldl_bump, List.length_append, List.length_singleton, ← ih]
    rfl

/-! ### The entry of a class -/

/-- The entry that uses of one name make. -/
def ofUses (uses : List Use) : Option Entry :=
  uses.foldl (fun e u => some (use u.key u.file e)) none

/-- **The entry of a class**: the spelling of the first use, and the tally of the files. -/
theorem ofUses_cons (u : Use) (uses : List Use) :
    ofUses (u :: uses) = some ⟨u.key, tally ((u :: uses).map Use.file)⟩ := by
  induction uses using List.reverseRecOn with
  | nil => rfl
  | append_singleton uses v ih =>
    have hlast : ofUses (u :: (uses ++ [v])) = some (use v.key v.file (ofUses (u :: uses))) := by
      rw [ofUses, ← List.cons_append, List.foldl_append]
      rfl
    rw [hlast, ih, ← List.cons_append, List.map_append]
    simp only [use, List.map_singleton, tally_append]

theorem ofUses_eq_some {uses : List Use} {e : Entry} :
    ofUses uses = some e ↔
      uses.head?.map Use.key = some e.spelling ∧ e.uses = tally (uses.map Use.file) := by
  cases uses with
  | nil => simp [ofUses]
  | cons u uses =>
    rw [ofUses_cons, Option.some.injEq, List.head?_cons, Option.map_some, Option.some.injEq]
    constructor
    · rintro rfl
      exact ⟨rfl, rfl⟩
    · rintro ⟨hkey, huses⟩
      rw [hkey, ← huses]

theorem ofUses_eq_none {uses : List Use} : ofUses uses = none ↔ uses = [] := by
  cases uses with
  | nil => simp [ofUses]
  | cons u uses => simp [ofUses_cons]

section OfUses

variable {uses : List Use} {e : Entry} (h : ofUses uses = some e)

theorem map_spelling_ofUses : (ofUses uses).map spelling = uses.head?.map Use.key := by
  cases uses with
  | nil => rfl
  | cons u uses => rw [ofUses_cons]; rfl

include h

theorem mem_files {f : String} : f ∈ e.files ↔ ∃ u ∈ uses, u.file = f := by
  rw [files, List.mem_mergeSort, (ofUses_eq_some.mp h).2, mem_map_tally, List.mem_map]

theorem files_pairwise : e.files.Pairwise (· < ·) := by
  rw [files, (ofUses_eq_some.mp h).2]
  exact mergeSort_pairwise_lt id (nodup_map_tally _)

theorem isDuplicate_iff {withinFile : Bool} :
    e.isDuplicate withinFile = true ↔ Repeated withinFile uses := by
  have htally := (ofUses_eq_some.mp h).2
  have hlength : 1 < e.uses.length ↔ ∃ u ∈ uses, ∃ v ∈ uses, u.file ≠ v.file := by
    rw [htally, ← List.length_map (f := Prod.fst),
      ← List.toFinset_card_of_nodup (nodup_map_tally _), Finset.one_lt_card]
    simp only [List.mem_toFinset, mem_map_tally]
    simp only [List.mem_map]
    constructor
    · rintro ⟨f, ⟨u, hu, rfl⟩, g, ⟨v, hv, rfl⟩, hne⟩
      exact ⟨u, hu, v, hv, hne⟩
    · rintro ⟨u, hu, v, hv, hne⟩
      exact ⟨u.file, ⟨u, hu, rfl⟩, v.file, ⟨v, hv, rfl⟩, hne⟩
  have htotal : e.total = uses.length := by
    rw [total, htally]
    exact (total_tally e.spelling _).trans (List.length_map _)
  simp [isDuplicate, Repeated, hlength, htotal, Nat.succ_le_iff]

end OfUses

end Entry

/-! ### Runs -/

namespace Index

theorem addUses_append (ix : Index) (uses uses' : List Use) :
    ix.addUses (uses ++ uses') = (ix.addUses uses).addUses uses' := List.foldl_append

/-- If each step adds some uses to an index, all of them together add all the uses in order. -/
theorem foldl_addUses {σ ρ : Type} {step : σ → ρ → σ} {index : σ → Index} {uses : ρ → List Use}
    (h : ∀ s r, index (step s r) = (index s).addUses (uses r)) (s : σ) (rs : List ρ) :
    index (rs.foldl step s) = (index s).addUses (rs.flatMap uses) := by
  induction rs generalizing s with
  | nil => rfl
  | cons r rs ih => rw [List.foldl_cons, ih, h, List.flatMap_cons, addUses_append]

@[simp] theorem addUses_form (ix : Index) (uses : List Use) : (ix.addUses uses).form = ix.form := by
  induction uses generalizing ix with
  | nil => rfl
  | cons u uses ih =>
    rw [addUses, List.foldl_cons, ← addUses, ih, add]
    split <;> rfl

@[simp] theorem addUses_withinFile (ix : Index) (uses : List Use) :
    (ix.addUses uses).withinFile = ix.withinFile := by
  induction uses generalizing ix with
  | nil => rfl
  | cons u uses ih =>
    rw [addUses, List.foldl_cons, ← addUses, ih, add]
    split <;> rfl

/-- One use changes one entry, or none if the name is one of blanks. -/
theorem getElem?_add (ix : Index) (key file k : String) :
    (ix.add key file).entries[k]? =
      if Text.isBlankText key = false ∧ ix.form key = k then
        some (Entry.use key file ix.entries[k]?)
      else ix.entries[k]? := by
  rw [add]
  by_cases hblank : Text.isBlankText key = true
  · simp [hblank]
  · by_cases hk : ix.form key = k
    · simp [hblank, hk, get?]
    · simp [hblank, hk, Std.TreeMap.getElem?_insert]

/-- A run changes an entry by the uses of its class, and by nothing else. -/
theorem getElem?_addUses (ix : Index) (uses : List Use) (k : String) :
    (ix.addUses uses).entries[k]? =
      (usesOf ix.form uses k).foldl (fun e u => some (Entry.use u.key u.file e))
        ix.entries[k]? := by
  induction uses generalizing ix with
  | nil => rfl
  | cons u uses ih =>
    have hform : (ix.add u.key u.file).form = ix.form := addUses_form ix [u]
    rw [addUses, List.foldl_cons, ← addUses, ih, hform, getElem?_add, usesOf, usesOf,
      List.filter_cons]
    by_cases hu : Text.isBlankText u.key = false ∧ ix.form u.key = k
    · simp [hu]
    · rw [if_neg hu, if_neg (by simpa using hu)]

theorem values_eq_map_toList (entries : Std.TreeMap String Entry) :
    entries.values = entries.toList.map Prod.snd := by
  show entries.inner.inner.values =
    (Std.DTreeMap.Internal.Impl.Const.toList entries.inner.inner).map Prod.snd
  rw [Std.DTreeMap.Internal.Impl.values_eq_map_snd,
    Std.DTreeMap.Internal.Impl.Const.toList_eq_toListModel_map, List.map_map]
  rfl

theorem mem_duplicates_iff {ix : Index} {d : Duplicate} :
    d ∈ ix.duplicates ↔
      ∃ (k : String) (e : Entry), ix.entries[k]? = some e ∧ e.isDuplicate ix.withinFile = true ∧
        d = ⟨e.spelling, e.files⟩ := by
  rw [duplicates, List.mem_mergeSort, List.mem_map, values_eq_map_toList]
  simp only [List.mem_filter, List.mem_map, Prod.exists,
    Std.TreeMap.mem_toList_iff_getElem?_eq_some]
  constructor
  · rintro ⟨e, ⟨⟨k, e', he, rfl⟩, hdup⟩, rfl⟩
    exact ⟨k, e', he, hdup, rfl⟩
  · rintro ⟨k, e, he, hdup, rfl⟩
    exact ⟨e, ⟨⟨k, e, he, rfl⟩, hdup⟩, rfl⟩

section Fresh

variable {form : String → String} {withinFile : Bool} {uses : List Use}

/-- The index that knows some uses and nothing else. -/
def ofUses (form : String → String) (withinFile : Bool) (uses : List Use) : Index :=
  ({ form, withinFile } : Index).addUses uses

theorem getElem?_ofUses (k : String) :
    (ofUses form withinFile uses).entries[k]? = Entry.ofUses (usesOf form uses k) := by
  rw [ofUses, getElem?_addUses, Entry.ofUses]
  congr 1

theorem form_spelling {k : String} {e : Entry} (he : Entry.ofUses (usesOf form uses k) = some e) :
    form e.spelling = k := by
  obtain ⟨hkey, -⟩ := Entry.ofUses_eq_some.mp he
  obtain ⟨u, hu, hspelling⟩ := Option.map_eq_some_iff.mp hkey
  rw [← hspelling]
  exact (mem_usesOf.mp (List.mem_of_mem_head? hu)).2.2

/-- **The duplicates are the classes that are used more than once.** -/
theorem mem_duplicates {d : Duplicate} :
    d ∈ (ofUses form withinFile uses).duplicates ↔
      ∃ k e, Entry.ofUses (usesOf form uses k) = some e ∧
        Repeated withinFile (usesOf form uses k) ∧ d = ⟨e.spelling, e.files⟩ := by
  rw [mem_duplicates_iff]
  constructor
  · rintro ⟨k, e, he, hdup, rfl⟩
    rw [getElem?_ofUses] at he
    rw [ofUses, addUses_withinFile, Entry.isDuplicate_iff he] at hdup
    exact ⟨k, e, he, hdup, rfl⟩
  · rintro ⟨k, e, he, hdup, rfl⟩
    refine ⟨k, e, by rw [getElem?_ofUses, he], ?_, rfl⟩
    rw [ofUses, addUses_withinFile, Entry.isDuplicate_iff he]
    exact hdup

/-- **No name is reported twice**, and the names come in order. -/
theorem duplicates_pairwise :
    (ofUses form withinFile uses).duplicates.Pairwise fun d d' => d.key < d'.key := by
  have hspelling : (ofUses form withinFile uses).entries.toList.Pairwise
      fun a b => a.2.spelling ≠ b.2.spelling := by
    refine Std.TreeMap.distinct_keys_toList.imp_of_mem fun {a b} ha hb hab he => hab ?_
    rw [Std.TreeMap.mem_toList_iff_getElem?_eq_some, getElem?_ofUses] at ha hb
    rw [← form_spelling ha, ← form_spelling hb, he]
    exact Std.ReflCmp.compare_self
  rw [duplicates, values_eq_map_toList]
  apply mergeSort_pairwise_lt
  rw [List.pairwise_map]
  exact List.Pairwise.filter _ (List.pairwise_map.mpr hspelling)

theorem nodup_duplicates : (ofUses form withinFile uses).duplicates.Nodup := by
  refine duplicates_pairwise.imp ?_
  rintro d _ hlt rfl
  exact String.lt_irrefl d.key hlt

theorem mem_files {key f : String} :
    f ∈ (ofUses form withinFile uses).files key ↔
      ∃ u ∈ usesOf form uses (form key), u.file = f := by
  have hget : (ofUses form withinFile uses).get? key =
      Entry.ofUses (usesOf form uses (form key)) := by
    rw [get?, getElem?_ofUses, ofUses, addUses_form]
  rw [files, hget]
  cases he : Entry.ofUses (usesOf form uses (form key)) with
  | none => simp [Entry.ofUses_eq_none.mp he]
  | some e => exact Entry.mem_files he

theorem exists_entry {k : String} (h : Repeated withinFile (usesOf form uses k)) :
    ∃ e, Entry.ofUses (usesOf form uses k) = some e := by
  rw [← Option.ne_none_iff_exists', ne_eq, Entry.ofUses_eq_none]
  intro huses
  simp [huses, Repeated] at h

theorem duplicates_eq_nil :
    (ofUses form withinFile uses).duplicates = [] ↔
      ∀ k, ¬ Repeated withinFile (usesOf form uses k) := by
  rw [List.eq_nil_iff_forall_not_mem]
  constructor
  · intro hnone k hrepeated
    obtain ⟨e, he⟩ := exists_entry hrepeated
    exact hnone _ (mem_duplicates.mpr ⟨k, e, he, hrepeated, rfl⟩)
  · intro hnone d hd
    obtain ⟨k, e, -, hrepeated, -⟩ := mem_duplicates.mp hd
    exact hnone k hrepeated

/-- **What an index tells after any run.**  Each class that is used more than once is reported by
one duplicate, and nothing else is; the duplicate has the spelling that came first and the files of
the class in order, each once.  The duplicates come in strict order of their names.  A spelling is
known for exactly those forms that were used. -/
theorem duplicates_ofUses (form : String → String) (withinFile : Bool) (uses : List Use) :
    let ix := ofUses form withinFile uses
    (∀ k, Repeated withinFile (usesOf form uses k) →
        ∃! d, d ∈ ix.duplicates ∧ form d.key = k) ∧
      (∀ d ∈ ix.duplicates,
        Repeated withinFile (usesOf form uses (form d.key)) ∧
          (usesOf form uses (form d.key)).head?.map Use.key = some d.key ∧
          d.files.Pairwise (· < ·) ∧
          ∀ f, f ∈ d.files ↔ ∃ u ∈ usesOf form uses (form d.key), u.file = f) ∧
      ix.duplicates.Pairwise (fun d d' => d.key < d'.key) ∧
      (∀ key f, f ∈ ix.files key ↔ ∃ u ∈ usesOf form uses (form key), u.file = f) ∧
      ∀ k, ix.entries[k]?.map Entry.spelling = (usesOf form uses k).head?.map Use.key := by
  intro ix
  refine ⟨?_, ?_, duplicates_pairwise, fun _ _ => mem_files, ?_⟩
  · intro k hrepeated
    obtain ⟨e, he⟩ := exists_entry hrepeated
    refine ⟨⟨e.spelling, e.files⟩,
      ⟨mem_duplicates.mpr ⟨k, e, he, hrepeated, rfl⟩, form_spelling he⟩, ?_⟩
    rintro d ⟨hd, hform⟩
    obtain ⟨k', e', he', -, rfl⟩ := mem_duplicates.mp hd
    -- the form of the spelling tells the class, and the class tells the entry
    have hk : k' = k := by rw [← form_spelling he', ← hform]
    subst hk
    rw [he, Option.some.injEq] at he'
    rw [he']
  · intro d hd
    obtain ⟨k, e, he, hrepeated, rfl⟩ := mem_duplicates.mp hd
    simp only [form_spelling he]
    exact ⟨hrepeated, (Entry.ofUses_eq_some.mp he).1, Entry.files_pairwise he,
      fun f => Entry.mem_files he⟩
  · intro k
    rw [getElem?_ofUses, Entry.map_spelling_ofUses]

end Fresh

end Index

end FeatureLint
