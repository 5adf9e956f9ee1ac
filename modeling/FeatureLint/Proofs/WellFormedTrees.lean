import FeatureLint.Proofs.Lists
import FeatureLint.Proofs.Walks
import FeatureLint.Tree.Edit
import Mathlib.Data.List.Nodup

/-!
# File trees that a file system can hold

A file tree is well formed (`Tree.WellFormed`) if each place is taken once and no name holds a
slash.  Trees are lists of entries, so neither comes for free; but every workspace that is made from
an empty one by edits along paths with such names has a tree like this (`Made.wellFormed`), and
paths that were read from text have such names (`areNames_ofString`).

A path leads to a place through names of its own, names of the place where it starts and names in
the targets of links.  Targets are cut at their slashes, so no walk comes upon a name with a slash
(`Tree.Leads.areNames`), and each edit puts its entry where a walk led to.
-/

namespace FeatureLint

namespace Tree

def AreNames (names : List String) : Prop := ∀ name ∈ names, '/' ∉ name.toList

/-- What a file system sees to: a place is taken once, and directories hold names. -/
structure WellFormed (t : Tree) : Prop where
  distinct : (t.entries.map Prod.fst).Nodup
  named : ∀ place ∈ t.entries.map Prod.fst, AreNames place

instance (names : List String) : Decidable (AreNames names) :=
  inferInstanceAs (Decidable (∀ name ∈ names, '/' ∉ name.toList))

instance (t : Tree) : Decidable t.WellFormed :=
  decidable_of_iff ((t.entries.map Prod.fst).Nodup ∧
      ∀ place ∈ t.entries.map Prod.fst, AreNames place)
    ⟨fun h => ⟨h.1, h.2⟩, fun h => ⟨h.distinct, h.named⟩⟩

/-! ### Names -/

variable {names names' : List String}

theorem AreNames.append (h : AreNames names) (h' : AreNames names') : AreNames (names ++ names') :=
  List.forall_mem_append.mpr ⟨h, h'⟩

theorem AreNames.subset (h : AreNames names) (hsub : names' ⊆ names) : AreNames names' :=
  fun name hname => h name (hsub hname)

theorem AreNames.dropLast (h : AreNames names) : AreNames names.dropLast :=
  h.subset (List.dropLast_subset names)

theorem AreNames.tail {name : String} (h : AreNames (name :: names)) : AreNames names :=
  h.subset (List.subset_cons_self name names)

theorem AreNames.getLast? (h : AreNames names) {last : String}
    (hlast : names.getLast? = some last) : AreNames [last] := by
  intro name hname
  rw [List.mem_singleton.mp hname]
  exact h last (List.mem_of_getLast? hlast)

theorem splitOn_join {between : String} {a : Char} {parts : List String}
    (hbetween : between.toList = [a]) (hparts : ∀ part ∈ parts, a ∉ part.toList)
    (hne : parts ≠ []) :
    (Text.join between parts).toList.splitOn a = parts.map String.toList := by
  rw [Text.join, String.toList_intercalate, hbetween]
  exact List.splitOn_intercalate a (List.forall_mem_map.mpr hparts) (by simpa using hne)

theorem areNames_splitOn (cs : List Char) : AreNames ((cs.splitOn '/').map String.ofList) := by
  intro name hname
  obtain ⟨piece, hpiece, rfl⟩ := List.mem_map.mp hname
  rw [String.toList_ofList]
  exact not_mem_of_mem_splitOn hpiece

theorem areNames_targetNames (target : String) : AreNames (targetNames target) := by
  have hpieces : AreNames (((target.toList.splitOn '/').map String.ofList).filter (· ≠ "")) :=
    (areNames_splitOn target.toList).subset (List.filter_subset_self _)
  rw [targetNames]
  split
  · exact hpieces.append (by decide)
  · exact hpieces

/-! ### Entries -/

variable {t : Tree} {place : Place} {node : Node}

theorem mem_map_fst_iff (hne : place ≠ []) :
    place ∈ t.entries.map Prod.fst ↔ ∃ node, t.get? place = some node := by
  rw [get?, if_neg hne, ← Option.isSome_iff_exists, List.lookup_isSome_iff, List.mem_map]
  constructor
  · rintro ⟨entry, hentry, rfl⟩
    exact ⟨entry, hentry, beq_self_eq_true _⟩
  · rintro ⟨entry, hentry, hplace⟩
    exact ⟨entry, hentry, (beq_iff_eq.mp hplace).symm⟩

theorem map_fst_insert (place : Place) (node : Node) (entries : List (Place × Node)) :
    (insert place node entries).map Prod.fst =
      if place ∈ entries.map Prod.fst then entries.map Prod.fst
      else entries.map Prod.fst ++ [place] := by
  induction entries with
  | nil => rfl
  | cons entry entries ih =>
    obtain ⟨p, n⟩ := entry
    rw [insert]
    by_cases hp : p = place
    · simp [hp]
    · rw [if_neg hp, List.map_cons, ih, List.map_cons]
      have hmem : place ∈ p :: entries.map Prod.fst ↔ place ∈ entries.map Prod.fst := by
        simp [Ne.symm hp]
      simp only [hmem]
      split <;> rfl

theorem WellFormed.put (ht : t.WellFormed) (hplace : AreNames place) :
    (t.put place node).WellFormed := by
  have hkeys := map_fst_insert place node t.entries
  by_cases hmem : place ∈ t.entries.map Prod.fst
  · rw [if_pos hmem] at hkeys
    exact ⟨hkeys ▸ ht.distinct, hkeys ▸ ht.named⟩
  · rw [if_neg hmem] at hkeys
    refine ⟨?_, ?_⟩
    · rw [Tree.put, hkeys, ← List.concat_eq_append]
      exact ht.distinct.concat hmem
    · rw [Tree.put, hkeys]
      exact List.forall_mem_append.mpr ⟨ht.named, List.forall_mem_singleton.mpr hplace⟩

theorem WellFormed.clear (ht : t.WellFormed) : (t.clear place).WellFormed := by
  have hsub : ((t.clear place).entries.map Prod.fst).Sublist (t.entries.map Prod.fst) :=
    List.filter_sublist.map _
  exact ⟨ht.distinct.sublist hsub, fun p hp => ht.named p (hsub.subset hp)⟩

/-- **Walks come upon names only**, as links are cut at their slashes. -/
theorem Leads.areNames {links left : Nat} {here : Place} {names : List String}
    (h : Leads t links here names left place) (hhere : AreNames here) (hnames : AreNames names) :
    AreNames place := by
  have hstep : ∀ {here : Place} {name : String} {rest : List String}, AreNames here →
      AreNames (name :: rest) → AreNames (here ++ [name]) :=
    fun hhere hnames => hhere.append (List.forall_mem_singleton.mpr (hnames _ List.mem_cons_self))
  induction h with
  | here => exact hhere
  | self _ _ _ ih => exact ih hhere hnames.tail
  | up _ _ ih => exact ih hhere.dropLast hnames.tail
  | @link _ _ _ _ _ target _ _ _ _ _ _ ih =>
    refine ih ?_ ((areNames_targetNames target).append hnames.tail)
    rw [targetStart]
    split
    · simp [AreNames]
    · exact hhere
  | name _ _ _ _ _ _ ih => exact ih (hstep hhere hnames) hnames.tail
  | free => exact hstep hhere hnames

end Tree

/-! ### Paths -/

theorem Path.areNames_ofString (s : String) : Tree.AreNames (ofString s).names :=
  (Tree.areNames_splitOn s.toList).subset (List.filter_subset_self _)

/-! ### Edits -/

namespace Workspace

structure WellFormed (w : Workspace) : Prop where
  tree : w.tree.WellFormed
  cwd : Tree.AreNames w.cwd

variable {w : Workspace} {p : Path} {place : Place} {node : Node}

theorem WellFormed.put (hw : w.WellFormed) (hplace : Tree.AreNames place) :
    ({ w with tree := w.tree.put place node } : Workspace).WellFormed :=
  ⟨hw.tree.put hplace, hw.cwd⟩

theorem WellFormed.areNames_of_locateTo (hw : w.WellFormed) (hp : Tree.AreNames p.names)
    {making : Bool} (h : w.locateTo making p = .ok place) : Tree.AreNames place := by
  have hstart : Tree.AreNames (w.start p) := by
    rw [start]
    split
    · exact hw.cwd
    · simp [Tree.AreNames]
  obtain ⟨-, left, hleads⟩ := leads_of_locateTo h
  exact hleads.areNames hstart hp

theorem WellFormed.areNames_of_locateEntry (hw : w.WellFormed) (hp : Tree.AreNames p.names)
    (h : w.locateEntry p = .ok place) : Tree.AreNames place := by
  rw [locateEntry] at h
  split at h
  · exact hw.areNames_of_locateTo hp h
  · rename_i last hlast
    cases hparent : w.locate p.parent with
    | error cause => simp [hparent, Except.map] at h
    | ok above =>
      simp only [hparent, Except.map, Except.ok.injEq] at h
      rw [← h]
      exact (hw.areNames_of_locateTo hp.dropLast hparent).append (hp.getLast? hlast)

/-- A directory is made at its last name, where the path above it leads and the name is free. -/
theorem makeDir_eq_ok {w' : Workspace} (h : w.makeDir p = .ok w') :
    ∃ last above, p.names.getLast? = some last ∧ w.locate p.parent = .ok above ∧
      w.tree.get? above = some .dir ∧ w.tree.get? (above ++ [last]) = none ∧
      w' = { w with tree := w.tree.put (above ++ [last]) .dir } := by
  rw [makeDir] at h
  split at h
  · cases h
  · split at h
    · cases h
    · rename_i last hlast
      split at h
      · cases h
      · rename_i above habove
        split at h
        · cases h
        · rename_i hdir
          split at h
          · cases h
          · split at h
            · cases h
            · split at h
              · cases h
              · rename_i hfree
                cases h
                exact ⟨last, above, hlast, habove, hdir, hfree, rfl⟩
        · cases h

/-- What every directory that is made leaves as it is, all of them together do. -/
theorem makeDirsUp_keeps {P : Workspace → Prop} {anchor : Path.Anchor} {names : List String}
    (hstep : ∀ w w' q, P w → q.names ⊆ names → w.makeDir q = .ok w' → P w') (hw : P w) :
    P (w.makeDirsUp anchor names).1 := by
  induction names with
  | nil =>
    rw [makeDirsUp]
    split
    · rename_i w' h
      exact hstep w w' _ hw (List.Subset.refl _) h
    · exact hw
  | cons name up ih =>
    have hthis : ∀ w w', P w → w.makeDir ⟨anchor, (name :: up).reverse⟩ = .ok w' → P w' :=
      fun w w' hw => hstep w w' _ hw (List.reverse_subset.mpr (List.Subset.refl _))
    have hup := ih fun w w' q hw hq => hstep w w' q hw (List.subset_cons_of_subset name hq)
    rw [makeDirsUp]
    split
    · rename_i w' h
      exact hthis w w' hw h
    · -- the directories above were made first, and stay also if this one cannot be made
      split
      · rename_i w' fault h
        rwa [h] at hup
      · rename_i w' h
        rw [h] at hup
        split
        · rename_i w'' h'
          exact hthis w' w'' hup h'
        · exact hup
        · exact hup
    · exact hw

theorem makeDirs_keeps {P : Workspace → Prop}
    (hstep : ∀ w w' q, P w → q.names ⊆ p.names → w.makeDir q = .ok w' → P w') (hw : P w) :
    P (w.makeDirs p).1 := by
  rw [makeDirs]
  split
  · exact hw
  · have hnames : p.names.reverse ⊆ p.names := List.reverse_subset.mpr (List.Subset.refl _)
    exact makeDirsUp_keeps (fun w w' q hw hq => hstep w w' q hw (List.Subset.trans hq hnames)) hw

theorem WellFormed.makeDir (hw : w.WellFormed) (hp : Tree.AreNames p.names) {w' : Workspace}
    (h : w.makeDir p = .ok w') : w'.WellFormed := by
  obtain ⟨last, above, hlast, habove, -, -, rfl⟩ := makeDir_eq_ok h
  exact hw.put ((hw.areNames_of_locateTo hp.dropLast habove).append (hp.getLast? hlast))

theorem WellFormed.makeDirs (hw : w.WellFormed) (hp : Tree.AreNames p.names) :
    (w.makeDirs p).1.WellFormed :=
  makeDirs_keeps (fun _ _ _ hw hq h => hw.makeDir (hp.subset hq) h) hw

theorem WellFormed.write (hw : w.WellFormed) (hp : Tree.AreNames p.names) (octets : List UInt8) :
    (w.write p octets).1.WellFormed := by
  rw [Workspace.write]
  split
  · exact hw
  · split
    · exact hw
    · rename_i place hplace
      split
      · exact hw
      · exact hw.put (hw.areNames_of_locateTo hp hplace)

theorem WellFormed.writeDeep (hw : w.WellFormed) (hp : Tree.AreNames p.names)
    (octets : List UInt8) : (w.writeDeep p octets).1.WellFormed := by
  have habove := hw.makeDirs (p := p.parent) hp.dropLast
  rw [Workspace.writeDeep]
  split
  · rename_i w' fault h
    rwa [h] at habove
  · rename_i w' h
    rw [h] at habove
    exact WellFormed.write habove hp octets

theorem WellFormed.linkDeep (hw : w.WellFormed) (hp : Tree.AreNames p.names) (target : String) :
    (w.linkDeep p target).1.WellFormed := by
  have habove := hw.makeDirs (p := p.parent) hp.dropLast
  rw [Workspace.linkDeep]
  split
  · rename_i w' fault h
    rwa [h] at habove
  · rename_i w' h
    rw [h] at habove
    split
    · exact habove
    · rename_i place hplace
      split
      · exact habove
      · exact WellFormed.put habove (WellFormed.areNames_of_locateEntry habove hp hplace)

theorem WellFormed.remove (hw : w.WellFormed) (p : Path) : (w.remove p).1.WellFormed := by
  rw [Workspace.remove]
  split
  · exact hw
  · split
    · exact hw
    · exact ⟨hw.tree.clear, hw.cwd⟩

/-- The workspaces that come of an empty one by edits. -/
inductive Made : Workspace → Prop
  | empty {cwd : Place} : Tree.AreNames cwd → Made ⟨⟨[]⟩, cwd⟩
  | makeDirs {w : Workspace} {p : Path} : Made w → Tree.AreNames p.names → Made (w.makeDirs p).1
  | writeDeep {w : Workspace} {p : Path} (octets : List UInt8) :
      Made w → Tree.AreNames p.names → Made (w.writeDeep p octets).1
  | linkDeep {w : Workspace} {p : Path} (target : String) :
      Made w → Tree.AreNames p.names → Made (w.linkDeep p target).1
  | remove {w : Workspace} (p : Path) : Made w → Made (w.remove p).1

/-- **Edits make well-formed trees only.** -/
theorem Made.wellFormed (h : Made w) : w.WellFormed := by
  induction h with
  | empty hcwd => exact ⟨⟨List.nodup_nil, by simp⟩, hcwd⟩
  | makeDirs _ hp ih => exact ih.makeDirs hp
  | writeDeep octets _ hp ih => exact ih.writeDeep hp octets
  | linkDeep target _ hp ih => exact ih.linkDeep hp target
  | remove p _ ih => exact ih.remove p

end Workspace

end FeatureLint
