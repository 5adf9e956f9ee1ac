import FeatureLint.Proofs.WellFormedTrees

/-!
# What is written can be read back

A path is followed twice, to write a file and to read it, and in between the tree has changed.  The
second walk comes to the same place all the same: a file is written where neither a directory nor a
link stands, and a walk passes through directories and links only (`Tree.Leads.put`).

That no link stands at the end of a walk takes a tree that has no loose ends, where whatever stands
somewhere stands in a directory (`Tree.Rooted`): the way up leads to directories then.  Directories
are made where this stays so (`Workspace.rooted_makeDirs`), and `Workspace.read_writeDeep` says the
whole: **a file that was written with the directories above it holds what was written.**
-/

namespace FeatureLint

namespace Tree

variable {t : Tree} {place q : Place} {node : Node}

theorem lookup_insert (place q : Place) (node : Node) (entries : List (Place × Node)) :
    (insert place node entries).lookup q = if q = place then some node else entries.lookup q := by
  induction entries with
  | nil =>
    by_cases hq : q = place
    · simp [insert, hq]
    · simp [insert, hq, List.lookup_cons, beq_false_of_ne hq]
  | cons entry entries ih =>
    obtain ⟨p, n⟩ := entry
    rw [insert]
    by_cases hp : p = place
    · subst hp
      rw [if_pos rfl, List.lookup_cons, List.lookup_cons]
      by_cases hq : q = p
      · simp [hq]
      · simp [hq, beq_false_of_ne hq]
    · rw [if_neg hp, List.lookup_cons, List.lookup_cons, ih]
      by_cases hq : q = p
      · simp [hq, hp]
      · simp [beq_false_of_ne hq]

theorem get?_put_self (hplace : place ≠ []) : (t.put place node).get? place = some node := by
  rw [get?, if_neg hplace, put, lookup_insert, if_pos rfl]

theorem get?_put_of_ne (hq : q ≠ place) : (t.put place node).get? q = t.get? q := by
  rw [get?, get?, put, lookup_insert, if_neg hq]

theorem get?_put_of_get? {n : Node} (hq : t.get? q = some n) (hplace : t.get? place ≠ some n) :
    (t.put place node).get? q = some n := by
  have hne : q ≠ place := fun he => hplace (he ▸ hq)
  rw [get?_put_of_ne hne, hq]

theorem ne_nil_of_get? (h : t.get? place ≠ some .dir) : place ≠ [] := by
  rintro rfl
  exact h rfl

/-! ### Trees without loose ends -/

/-- Whatever stands somewhere stands in a directory. -/
def Rooted (t : Tree) : Prop := ∀ place ∈ t.entries.map Prod.fst, t.get? place.dropLast = some .dir

instance (t : Tree) : Decidable t.Rooted :=
  inferInstanceAs (Decidable (∀ place ∈ t.entries.map Prod.fst, t.get? place.dropLast = some .dir))

theorem rooted_iff :
    t.Rooted ↔ ∀ place node, t.get? place = some node → t.get? place.dropLast = some .dir := by
  constructor
  · intro h place node hnode
    by_cases hplace : place = []
    · rw [hplace]
      rfl
    · exact h place ((mem_map_fst_iff hplace).mpr ⟨node, hnode⟩)
  · intro h place hmem
    by_cases hplace : place = []
    · rw [hplace]
      rfl
    · obtain ⟨node, hnode⟩ := (mem_map_fst_iff hplace).mp hmem
      exact h place node hnode

theorem Rooted.put (h : t.Rooted) (hplace : t.get? place ≠ some .dir)
    (habove : t.get? place.dropLast = some .dir) : (t.put place node).Rooted := by
  rw [rooted_iff] at h ⊢
  intro q n hn
  by_cases hq : q = place
  · rw [hq]
    exact get?_put_of_get? habove hplace
  · rw [get?_put_of_ne hq] at hn
    exact get?_put_of_get? (h q n hn) hplace

/-! ### Walks in a tree that has changed -/

namespace Leads

variable {links left : Nat} {here : Place} {name : String} {names rest : List String}

theorem get?_of_cons (h : Leads t links here (name :: rest) left place) :
    t.get? here = some .dir := by
  cases h <;> assumption

theorem not_link (h : Leads t links here names left place) (hrooted : t.Rooted)
    (hhere : ∀ target, t.get? here ≠ some (.link target)) (target : String) :
    t.get? place ≠ some (.link target) := by
  have hdir : ∀ {q}, t.get? q = some .dir → ∀ target, t.get? q ≠ some (.link target) := by
    intro q hq target
    simp [hq]
  induction h with
  | here => exact hhere target
  | self _ _ _ ih => exact ih hhere
  | up hup _ ih => exact ih (hdir (rooted_iff.mp hrooted _ _ hup))
  | link hin _ _ _ _ ih =>
    refine ih (hdir ?_)
    rw [targetStart]
    split
    · rfl
    · exact hin
  | name _ _ _ hnode hlink _ ih =>
    refine ih fun target he => ?_
    rw [hnode] at he
    cases he
    exact hlink target rfl
  | free _ _ _ hfree => simp [hfree]

/-- **A walk still leads where it led when a file is put there**, unless a directory or a link was
there before. -/
theorem put (h : Leads t links here names left place) (hdir : t.get? place ≠ some .dir)
    (hlink : ∀ target, t.get? place ≠ some (.link target)) (octets : List UInt8) :
    Leads (t.put place (.file octets)) links here names left place := by
  induction h with
  | here => exact .here
  | self hhere hname _ ih => exact .self (get?_put_of_get? hhere hdir) hname (ih hdir hlink)
  | up hhere _ ih => exact .up (get?_put_of_get? hhere hdir) (ih hdir hlink)
  | @link _ _ _ _ _ target _ hhere hname hshort htarget _ ih =>
    exact .link (get?_put_of_get? hhere hdir) hname hshort
      (get?_put_of_get? htarget (hlink target)) (ih hdir hlink)
  | @name _ _ here place name _ _ hhere hname hshort hnode hno _ ih =>
    have hrest := ih hdir hlink
    by_cases hlast : here ++ [name] = place
    · have hnew : (t.put place (.file octets)).get? (here ++ [name]) = some (.file octets) := by
        rw [hlast]
        exact get?_put_self (ne_nil_of_get? hdir)
      exact .name (get?_put_of_get? hhere hdir) hname hshort hnew (by simp) hrest
    · refine .name (get?_put_of_get? hhere hdir) hname hshort ?_ hno hrest
      rw [get?_put_of_ne hlast, hnode]
  | free hhere hname hshort _ =>
    exact .name (get?_put_of_get? hhere hdir) hname hshort (get?_put_self (ne_nil_of_get? hdir))
      (by simp) .here

end Leads

end Tree

namespace Workspace

variable {w : Workspace} {p : Path} {octets : List UInt8}

theorem write_eq (h : (w.write p octets).2 = none) :
    p.holdsNul = false ∧ ∃ place, w.locateTo true p = .ok place ∧
      w.tree.get? place ≠ some .dir ∧
      (w.write p octets).1 = { w with tree := w.tree.put place (.file octets) } := by
  rw [write] at h ⊢
  split at h
  · cases h
  · rename_i hnul
    rw [if_neg hnul]
    split at h
    · cases h
    · rename_i place hplace
      split at h
      · cases h
      · rename_i hdir
        exact ⟨Bool.eq_false_iff.mpr hnul, place, hplace, hdir, rfl⟩

theorem write_of_fault {fault : Fault} (h : (w.write p octets).2 = some fault) :
    (w.write p octets).1 = w := by
  rw [write] at h ⊢
  split
  · rfl
  · rename_i hnul
    rw [if_neg hnul] at h
    split
    · rfl
    · rename_i place hplace
      simp only [hplace] at h
      split
      · rfl
      · rename_i hdir
        split at h
        · rename_i hdir'
          exact absurd hdir' hdir
        · cases h

/-- **The path to a file that was written leads to where it was put.**  No directory was there, and
no link either: a path without names has to start in a directory for that. -/
theorem locate_write (hrooted : w.tree.Rooted) (h : (w.write p octets).2 = none) :
    ∃ place, (w.write p octets).1 = { w with tree := w.tree.put place (.file octets) } ∧
      (w.write p octets).1.locate p = .ok place ∧ w.tree.get? place ≠ some .dir ∧
      ((p.names = [] → w.tree.get? (w.start p) = some .dir) →
        ∀ target, w.tree.get? place ≠ some (.link target)) := by
  obtain ⟨-, place, hplace, hdir, hw⟩ := write_eq h
  obtain ⟨hshort, left, hleads⟩ := leads_of_locateTo hplace
  have hlink : w.tree.get? (w.start p) = some .dir →
      ∀ target, w.tree.get? place ≠ some (.link target) := fun hstart =>
    hleads.not_link hrooted fun target => by simp [hstart]
  rw [hw, locate, locateTo, if_neg (Nat.not_lt.mpr hshort)]
  cases hnames : p.names with
  | nil =>
    rw [hnames] at hleads
    cases hleads
    exact ⟨_, rfl, Tree.Leads.here.walk, hdir, fun hstart => hlink (hstart rfl)⟩
  | cons name rest =>
    rw [hnames] at hleads
    have hlink := hlink hleads.get?_of_cons
    exact ⟨place, rfl, (hleads.put hdir hlink octets).walk, hdir, fun _ => hlink⟩

theorem read_write (hrooted : w.tree.Rooted) (h : (w.write p octets).2 = none) :
    (w.write p octets).1.read p = .ok octets := by
  obtain ⟨hnul, -⟩ := write_eq h
  obtain ⟨place, hw, hlocate, hdir, -⟩ := locate_write hrooted h
  have hnode : (w.write p octets).1.tree.get? place = some (.file octets) := by
    rw [hw]
    exact Tree.get?_put_self (Tree.ne_nil_of_get? hdir)
  exact read_eq_ok.mpr ⟨hnul, stat_eq_ok.mpr ⟨place, hlocate, hnode⟩⟩

theorem rooted_makeDirs (h : w.tree.Rooted) : (w.makeDirs p).1.tree.Rooted := by
  refine makeDirs_keeps (P := fun w => w.tree.Rooted) ?_ h
  intro w w' q hw _ hmade
  obtain ⟨last, above, -, -, habove, hfree, rfl⟩ := makeDir_eq_ok hmade
  refine hw.put (by simp [hfree]) ?_
  rw [List.dropLast_concat]
  exact habove

/-- **What was written is read back**, also if the directories above had to be made. -/
theorem read_writeDeep (hrooted : w.tree.Rooted) (h : (w.writeDeep p octets).2 = none) :
    (w.writeDeep p octets).1.read p = .ok octets := by
  have hmade := rooted_makeDirs (p := p.parent) hrooted
  rw [writeDeep] at h ⊢
  split at h
  · cases h
  · rename_i w' hdirs
    rw [hdirs] at hmade
    exact read_write hmade h

theorem writeDeep_name {name : String} (hcwd : w.tree.get? w.cwd = some .dir)
    (hfree : w.tree.get? (w.cwd ++ [name]) = none) (hname : Tree.isProper name = true)
    (hshort : name.utf8ByteSize ≤ Tree.maxName) (hnul : '\x00' ∉ name.toList) :
    (w.writeDeep (.ofNames [name]) octets).2 = none := by
  have habove : w.makeDirs (.ofNames []) = (w, none) := by
    have hisDir : w.isDir ⟨.current, []⟩ = true :=
      isDir_eq_true.mpr ⟨rfl, stat_eq_ok.mpr ⟨w.cwd, locate_here, hcwd⟩⟩
    have hexists : w.makeDir ⟨.current, []⟩ = .error .exists := by
      rw [makeDir, if_neg (by decide +kernel)]
      rfl
    show w.makeDirsUp .current [] = (w, none)
    simp only [makeDirsUp, hexists, unlessDir, hisDir, if_true]
  have hplace : w.locateTo true (.ofNames [name]) = .ok (w.cwd ++ [name]) := by
    have hpath : ¬ Tree.maxPath < (Path.ofNames [name]).text.utf8ByteSize := by
      rw [Path.text_ofNames_singleton]
      simp only [Tree.maxName, Tree.maxPath] at *
      omega
    rw [locateTo, if_neg hpath]
    exact Tree.walk_free hcwd hname hshort hfree
  have hholds : (Path.ofNames [name]).holdsNul = false := by
    simpa [Path.ofNames, Path.holdsNul] using hnul
  have hparent : (Path.ofNames [name]).parent = .ofNames [] := rfl
  rw [writeDeep, hparent, habove]
  simp [write, hholds, hplace, hfree]

end Workspace

end FeatureLint
