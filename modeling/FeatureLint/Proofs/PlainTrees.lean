import FeatureLint.Proofs.ExactCorpus
import FeatureLint.Proofs.WrittenFiles

/-!
# Trees without links

Where there are no links, a path whose names are all proper leads to one place only: the names of
the path behind the place where it starts.  What it leads to is told by the tree alone then, and all
that can go wrong on the way to something that is there is that a name, or the whole path, is too
long.

* `Tree.Leads.eq_append`, `Tree.leads_append`: where proper names lead.
* `Workspace.Plain.stat_iff`: **a path leads to what stands at its place.**
* `Workspace.Plain.writeDeep_eq`: a file that is written, with the directories above it, leaves a
  tree without links.
-/

namespace FeatureLint

def Node.isLink : Node → Bool
  | .link _ => true
  | _ => false

namespace Tree

variable {t : Tree} {links left : Nat} {here place : Place} {node : Node} {name : String}
  {names names' : List String}

def Unlinked (t : Tree) : Prop := ∀ entry ∈ t.entries, entry.2.isLink = false

instance (t : Tree) : Decidable t.Unlinked :=
  inferInstanceAs (Decidable (∀ entry ∈ t.entries, entry.2.isLink = false))

theorem Unlinked.get? (h : t.Unlinked) (place : Place) (target : String) :
    t.get? place ≠ some (.link target) := by
  rw [Tree.get?]
  split
  · simp
  · intro hlookup
    obtain ⟨before, after, hentries, -⟩ := List.lookup_eq_some_iff.mp hlookup
    have hlink := h (place, .link target) (by simp [hentries])
    cases hlink

theorem mem_insert {entry : Place × Node} {entries : List (Place × Node)}
    (h : entry ∈ insert place node entries) : entry = (place, node) ∨ entry ∈ entries := by
  induction entries with
  | nil => exact .inl (List.mem_singleton.mp h)
  | cons first entries ih =>
    obtain ⟨p, n⟩ := first
    rw [insert] at h
    split at h
    · rename_i hp
      rcases List.mem_cons.mp h with rfl | h
      · exact .inl (by rw [hp])
      · exact .inr (List.mem_cons_of_mem _ h)
    · rcases List.mem_cons.mp h with rfl | h
      · exact .inr List.mem_cons_self
      · exact (ih h).imp_right (List.mem_cons_of_mem _)

theorem Unlinked.put (h : t.Unlinked) (hnode : node.isLink = false) :
    (t.put place node).Unlinked := by
  intro entry hentry
  rcases mem_insert hentry with rfl | hentry
  · exact hnode
  · exact h entry hentry

theorem Rooted.get?_of_append (h : t.Rooted) (hnode : t.get? (place ++ names) = some node)
    (hne : names ≠ []) : t.get? place = some .dir := by
  induction names using List.reverseRecOn generalizing node with
  | nil => exact absurd rfl hne
  | append_singleton names name ih =>
    have habove := rooted_iff.mp h _ _ hnode
    rw [← List.append_assoc, List.dropLast_concat] at habove
    by_cases hnames : names = []
    · simpa [hnames] using habove
    · exact ih habove hnames

theorem Rooted.dir_of_append (h : t.Rooted) (hdir : t.get? (place ++ names) = some .dir) :
    t.get? place = some .dir := by
  by_cases hne : names = []
  · simpa [hne] using hdir
  · exact h.get?_of_append hdir hne

/-! ### Names -/

def AreProper (names : List String) : Prop :=
  ∀ name ∈ names, isProper name = true ∧ '\x00' ∉ name.toList ∧ '/' ∉ name.toList

instance (names : List String) : Decidable (AreProper names) :=
  inferInstanceAs (Decidable (∀ name ∈ names,
    isProper name = true ∧ '\x00' ∉ name.toList ∧ '/' ∉ name.toList))

theorem AreProper.append (h : AreProper names) (h' : AreProper names') :
    AreProper (names ++ names') := List.forall_mem_append.mpr ⟨h, h'⟩

theorem AreProper.subset (h : AreProper names) (hsub : names' ⊆ names) : AreProper names' :=
  fun name hname => h name (hsub hname)

theorem AreProper.areNames (h : AreProper names) : AreNames names :=
  fun name hname => (h name hname).2.2

theorem ProperlyNamed.put (h : t.ProperlyNamed) (hplace : AreProper place) :
    (t.put place node).ProperlyNamed := by
  intro q hq
  rw [Tree.put, map_fst_insert] at hq
  split at hq
  · exact h q hq
  · rcases List.mem_append.mp hq with hq | hq
    · exact h q hq
    · rw [List.mem_singleton.mp hq]
      exact fun name hname => ⟨(hplace name hname).1, (hplace name hname).2.1⟩

/-! ### Walks -/

/-- **Proper names lead to the place that they name**, into a directory that is there, and none of
them is too long. -/
theorem Leads.eq_append (h : Leads t links here names left place) (hlinks : t.Unlinked)
    (hproper : ∀ name ∈ names, isProper name = true) :
    place = here ++ names ∧ (∀ name ∈ names, name.utf8ByteSize ≤ maxName) ∧
      (names ≠ [] → t.get? (here ++ names.dropLast) = some .dir) := by
  induction h with
  | here => simp
  | self _ hname _ _ =>
    have hself := isProper_iff.mp (hproper _ List.mem_cons_self)
    rcases hname with rfl | rfl
    · exact absurd rfl hself.1
    · exact absurd rfl hself.2.2
  | up => exact absurd rfl (isProper_iff.mp (hproper _ List.mem_cons_self)).2.1
  | link _ _ _ hlink _ _ => exact absurd hlink (hlinks.get? _ _)
  | @name _ _ here place name rest _ hhere hname hshort hnode hno hrest ih =>
    obtain ⟨rfl, hnames, hdir⟩ := ih fun name hname => hproper name (List.mem_cons_of_mem _ hname)
    refine ⟨by simp, List.forall_mem_cons.mpr ⟨hshort, hnames⟩, fun _ => ?_⟩
    cases rest with
    | nil => simpa using hhere
    | cons next rest => simpa using hdir (by simp)
  | free hhere _ hshort _ => exact ⟨rfl, by simpa using hshort, fun _ => by simpa using hhere⟩

/-- The other way round: proper names lead into a directory that is there, if they are short. -/
theorem leads_append (hrooted : t.Rooted) (hlinks : t.Unlinked)
    (hproper : ∀ name ∈ names, isProper name = true)
    (hshort : ∀ name ∈ names, name.utf8ByteSize ≤ maxName)
    (hdir : names ≠ [] → t.get? (here ++ names.dropLast) = some .dir) :
    Leads t links here names links (here ++ names) := by
  induction names generalizing here with
  | nil => simpa using Leads.here
  | cons name rest ih =>
    obtain ⟨hname, hproper⟩ := List.forall_mem_cons.mp hproper
    obtain ⟨hsize, hshort⟩ := List.forall_mem_cons.mp hshort
    have hhere : t.get? here = some .dir := hrooted.dir_of_append (hdir (by simp))
    cases rest with
    | nil =>
      cases hnode : t.get? (here ++ [name]) with
      | none => exact .free hhere hname hsize hnode
      | some node =>
        have hunlinked : ∀ target, node ≠ .link target := fun target he =>
          hlinks.get? _ target (he ▸ hnode)
        exact .name hhere hname hsize hnode hunlinked .here
    | cons next rest =>
      have habove : t.get? (here ++ [name] ++ (next :: rest).dropLast) = some .dir := by
        simpa using hdir
      have hrest := ih hproper hshort fun _ => habove
      rw [List.append_assoc] at hrest
      exact .name hhere hname hsize (hrooted.dir_of_append habove) (by simp) hrest

theorem walk_append_tooLong (hrooted : t.Rooted) (hproper : ∀ name ∈ names, isProper name = true)
    (hlong : ∃ name ∈ names, maxName < name.utf8ByteSize)
    (hdir : t.get? (here ++ names.dropLast) = some .dir) :
    t.walk false links here names = .error .nameTooLong := by
  induction names generalizing here with
  | nil => simp at hlong
  | cons name rest ih =>
    obtain ⟨hname, hproper⟩ := List.forall_mem_cons.mp hproper
    have hhere : t.get? here = some .dir := hrooted.dir_of_append hdir
    by_cases hsize : maxName < name.utf8ByteSize
    · exact walk_tooLong hhere hname hsize
    · cases rest with
      | nil => simp [hsize] at hlong
      | cons next rest =>
        have habove : t.get? (here ++ [name] ++ (next :: rest).dropLast) = some .dir := by
          simpa using hdir
        rw [walk_name hhere (hrooted.dir_of_append habove) (by simp) hname (Nat.not_lt.mp hsize)]
        refine ih hproper ?_ habove
        simpa [hsize] using hlong

theorem walk_missing (hhere : t.get? here = some .dir) (hname : isProper name = true)
    (hshort : name.utf8ByteSize ≤ maxName) (hfree : t.get? (here ++ [name]) = none)
    (hne : names ≠ []) : t.walk false links here (name :: names) = .error .missing := by
  obtain ⟨hdot, hdots, hslash⟩ := isProper_iff.mp hname
  rw [walk, hhere]
  simp [hdot, hdots, hslash, Nat.not_lt.mpr hshort, hfree, hne]

theorem walk_making (hlinks : t.Unlinked) (hproper : ∀ name ∈ names, isProper name = true)
    (making : Bool) : t.walk making links here names = t.walk false links here names := by
  induction names generalizing here with
  | nil => rw [walk, walk]
  | cons name rest ih =>
    have hrest : ∀ name ∈ rest, isProper name = true := fun n hn =>
      hproper n (List.mem_cons_of_mem _ hn)
    have hslash : endsInSlash (name :: rest) = false := by
      unfold endsInSlash
      split
      · rename_i he
        obtain ⟨rfl, rfl⟩ := List.cons.inj he
        simp [(isProper_iff.mp (hrest _ List.mem_cons_self)).2.2]
      · rfl
    rw [walk, walk]
    simp only [hslash, Bool.and_false, ih hrest]
    have hlink := hlinks.get? (here ++ [name])
    split
    · cases hnode : t.get? (here ++ [name]) with
      | none => rfl
      | some node =>
        cases node with
        | link target => exact absurd hnode (hlink target)
        | _ => rfl
    · rfl
    · rfl

end Tree

/-! ### Paths -/

namespace Path

variable {p : Path}

/-- No name of the path leads up or stays where it is. -/
def IsStraight (p : Path) : Prop := ∀ name ∈ p.names, Tree.isProper name = true

def IsShort (p : Path) : Prop :=
  p.text.utf8ByteSize ≤ Tree.maxPath ∧ ∀ name ∈ p.names, name.utf8ByteSize ≤ Tree.maxName

instance (p : Path) : Decidable p.IsStraight :=
  inferInstanceAs (Decidable (∀ name ∈ p.names, Tree.isProper name = true))

instance (p : Path) : Decidable p.IsShort :=
  inferInstanceAs (Decidable (p.text.utf8ByteSize ≤ Tree.maxPath ∧
    ∀ name ∈ p.names, name.utf8ByteSize ≤ Tree.maxName))

theorem Spelled.isStraight (h : p.Spelled) (hup : ".." ∉ p.names) : p.IsStraight := by
  intro name hname
  rw [Tree.isProper_iff]
  refine ⟨?_, ?_, ?_⟩
  · rintro rfl
    exact h.notHere hname
  · rintro rfl
    exact hup hname
  · rintro rfl
    exact h.notEmpty hname

theorem Spelled.areProper (h : p.Spelled) (hup : ".." ∉ p.names) (hnul : p.holdsNul = false) :
    Tree.AreProper p.names := by
  intro name hname
  refine ⟨h.isStraight hup name hname, ?_, h.areNames name hname⟩
  simpa using List.any_eq_false.mp hnul name hname

theorem IsStraight.parent (h : p.IsStraight) : p.parent.IsStraight :=
  fun name hname => h name (List.dropLast_subset _ hname)

theorem holdsNul_parent (h : p.holdsNul = false) : p.parent.holdsNul = false :=
  List.any_eq_false.mpr fun name hname =>
    List.any_eq_false.mp h name (List.dropLast_subset _ hname)

theorem text_parent_le (hne : p.names ≠ []) (hempty : "" ∉ p.names) :
    p.parent.text.utf8ByteSize ≤ p.text.utf8ByteSize := by
  obtain ⟨anchor, names⟩ := p
  obtain ⟨up, last, rfl⟩ := names.eq_nil_or_concat'.resolve_left hne
  have hsize : 0 < last.utf8ByteSize := by
    rw [Nat.pos_iff_ne_zero, Ne, String.utf8ByteSize_eq_zero_iff]
    rintro rfl
    simp at hempty
  have hparent : parent ⟨anchor, up ++ [last]⟩ = ⟨anchor, up⟩ := by simp [parent]
  have htext : ∀ {names}, names ≠ [] → text ⟨anchor, names⟩ = anchor.text ++ Text.join "/" names :=
    fun hnames => if_neg fun h => hnames h.2
  have hconcat : up ++ [last] ≠ [] := by simp
  rw [hparent, htext hconcat, String.utf8ByteSize_append]
  by_cases hup : up = []
  · subst hup
    have hlast : Text.join "/" ([] ++ [last]) = last := String.intercalate_singleton
    rw [hlast]
    cases anchor with
    | current =>
      have hdot : (text ⟨.current, []⟩).utf8ByteSize = 1 := by decide +kernel
      rw [hdot]
      exact Nat.le_add_left_of_le hsize
    | root => exact Nat.le_add_right ..
    | doubleRoot => exact Nat.le_add_right ..
  · rw [htext hup, Text.join, Text.join, String.intercalate_append_of_ne_nil hup (by simp)]
    simp only [String.utf8ByteSize_append]
    omega

theorem IsShort.parent (h : p.IsShort) (hp : p.IsStraight) (hne : p.names ≠ []) :
    p.parent.IsShort := by
  have hempty : "" ∉ p.names := fun hmem => (Tree.isProper_iff.mp (hp _ hmem)).2.2 rfl
  exact ⟨(text_parent_le hne hempty).trans h.1, fun name hname =>
    h.2 name (List.dropLast_subset _ hname)⟩

end Path

/-! ### Workspaces -/

namespace Workspace

/-- A workspace as a file system without links holds it, with a current directory that is there. -/
structure Plain (w : Workspace) : Prop where
  wellFormed : w.tree.WellFormed
  named : w.tree.ProperlyNamed
  rooted : w.tree.Rooted
  unlinked : w.tree.Unlinked
  cwd : w.tree.get? w.cwd = some .dir

instance (w : Workspace) : Decidable w.Plain :=
  decidable_of_iff (w.tree.WellFormed ∧ w.tree.ProperlyNamed ∧ w.tree.Rooted ∧ w.tree.Unlinked ∧
      w.tree.get? w.cwd = some .dir)
    ⟨fun ⟨h₁, h₂, h₃, h₄, h₅⟩ => ⟨h₁, h₂, h₃, h₄, h₅⟩, fun ⟨h₁, h₂, h₃, h₄, h₅⟩ =>
      ⟨h₁, h₂, h₃, h₄, h₅⟩⟩

/-- The place that a path names, if nothing on the way is a link or leads up. -/
def placeOf (w : Workspace) (p : Path) : Place := w.start p ++ p.names

theorem placeOf_parent {w : Workspace} {p : Path} (hne : p.names ≠ []) :
    w.placeOf p.parent = (w.placeOf p).dropLast := (List.dropLast_append_of_ne_nil hne).symm

namespace Plain

variable {w w' : Workspace} {p q : Path} {place : Place} {node : Node} {making : Bool}

theorem areProper (hw : w.Plain) (hnode : w.tree.get? place = some node) :
    Tree.AreProper place := by
  intro name hname
  have hmem := (Tree.mem_map_fst_iff (List.ne_nil_of_mem hname)).mpr ⟨node, hnode⟩
  obtain ⟨hproper, hnul⟩ := hw.named place hmem name hname
  exact ⟨hproper, hnul, hw.wellFormed.named place hmem name hname⟩

theorem get?_start (hw : w.Plain) (p : Path) : w.tree.get? (w.start p) = some .dir := by
  rw [start]
  split
  · exact hw.cwd
  · rfl

theorem get?_parent_of_nil (hw : w.Plain) (hne : p.names = []) :
    w.tree.get? (w.placeOf p.parent) = some .dir := by
  have hparent : p.parent.names = [] := by simp [Path.parent, hne]
  rw [placeOf, hparent, List.append_nil]
  exact hw.get?_start p.parent

/-- **Where a path leads**: to the place that it names, in a directory that is there. -/
theorem locateTo_eq_ok (hw : w.Plain) (hp : p.IsStraight) :
    w.locateTo making p = .ok place ↔
      p.IsShort ∧ w.tree.get? (w.placeOf p.parent) = some .dir ∧ place = w.placeOf p := by
  constructor
  · intro h
    obtain ⟨htext, left, hleads⟩ := leads_of_locateTo h
    obtain ⟨hplace, hshort, hdir⟩ := hleads.eq_append hw.unlinked hp
    refine ⟨⟨htext, hshort⟩, ?_, hplace⟩
    by_cases hne : p.names = []
    · exact hw.get?_parent_of_nil hne
    · exact hdir hne
  · rintro ⟨⟨htext, hshort⟩, hdir, rfl⟩
    rw [locateTo, if_neg (Nat.not_lt.mpr htext), Tree.walk_making hw.unlinked hp]
    exact (Tree.leads_append hw.rooted hw.unlinked hp hshort fun _ => hdir).walk

theorem locate_ne (hw : w.Plain) (hp : p.IsStraight) (hne : w.placeOf p ≠ place) :
    w.locate p ≠ .ok place :=
  fun h => hne ((hw.locateTo_eq_ok hp).mp h).2.2.symm

theorem locate_tooLong (hw : w.Plain) (hp : p.IsStraight)
    (hdir : w.tree.get? (w.placeOf p.parent) = some .dir) (hlong : ¬ p.IsShort) :
    w.locate p = .error .nameTooLong := by
  rw [locate, locateTo]
  split
  · rfl
  · rename_i htext
    have hname : ∃ name ∈ p.names, Tree.maxName < name.utf8ByteSize := by
      by_contra hnone
      push Not at hnone
      exact hlong ⟨Nat.not_lt.mp htext, hnone⟩
    exact Tree.walk_append_tooLong hw.rooted hp hname hdir

theorem get?_parent (hw : w.Plain) (hnode : w.tree.get? (w.placeOf p) = some node) :
    w.tree.get? (w.placeOf p.parent) = some .dir := by
  by_cases hne : p.names = []
  · exact hw.get?_parent_of_nil hne
  · rw [placeOf_parent hne]
    exact Tree.rooted_iff.mp hw.rooted _ _ hnode

theorem locate_of_get? (hw : w.Plain) (hp : p.IsStraight) (hshort : p.IsShort)
    (hnode : w.tree.get? (w.placeOf p) = some node) : w.locate p = .ok (w.placeOf p) :=
  (hw.locateTo_eq_ok hp).mpr ⟨hshort, hw.get?_parent hnode, rfl⟩

/-- **A path leads to what stands at its place.** -/
theorem stat_iff (hw : w.Plain) (hp : p.IsStraight) :
    w.stat p = .ok node ↔ p.IsShort ∧ w.tree.get? (w.placeOf p) = some node := by
  rw [stat_eq_ok]
  constructor
  · rintro ⟨place, hplace, hnode⟩
    obtain ⟨hshort, -, rfl⟩ := (hw.locateTo_eq_ok hp).mp hplace
    exact ⟨hshort, hnode⟩
  · rintro ⟨hshort, hnode⟩
    exact ⟨w.placeOf p, hw.locate_of_get? hp hshort hnode, hnode⟩

theorem isFile?_iff (hw : w.Plain) (hp : p.IsStraight) :
    w.isFile? p = .ok true ↔ p.holdsNul = false ∧ p.IsShort ∧
      ∃ octets, w.tree.get? (w.placeOf p) = some (.file octets) := by
  simp only [isFile?_eq_ok_true, hw.stat_iff hp, exists_and_left]

theorem isDir_iff (hw : w.Plain) (hp : p.IsStraight) :
    w.isDir p = true ↔
      p.holdsNul = false ∧ p.IsShort ∧ w.tree.get? (w.placeOf p) = some .dir := by
  rw [isDir_eq_true, hw.stat_iff hp]

theorem isFile?_eq_ok (hw : w.Plain) (hp : p.IsStraight) (hnul : p.holdsNul = false)
    (hdir : w.tree.get? (w.placeOf p.parent) = some .dir) {b : Bool} :
    w.isFile? p = .ok b ↔
      p.IsShort ∧ (b = true ↔ ∃ octets, w.tree.get? (w.placeOf p) = some (.file octets)) := by
  by_cases hshort : p.IsShort
  · have hlocate : w.locate p = .ok (w.placeOf p) :=
      (hw.locateTo_eq_ok hp).mpr ⟨hshort, hdir, rfl⟩
    rw [isFile?, node?, hnul, stat, hlocate]
    rcases hnode : w.tree.get? (w.placeOf p) with _ | (octets | _ | target)
    all_goals simp [hnode, hshort, Except.map, eq_comm]
  · rw [isFile?, node?, hnul, stat, hw.locate_tooLong hp hdir hshort]
    simp [Except.map, hshort]

/-! ### Edits -/

theorem put (hw : w.Plain) (hplace : Tree.AreProper place) (hdir : w.tree.get? place ≠ some .dir)
    (habove : w.tree.get? place.dropLast = some .dir) (hnode : node.isLink = false) :
    ({ w with tree := w.tree.put place node } : Workspace).Plain where
  wellFormed := hw.wellFormed.put hplace.areNames
  named := hw.named.put hplace
  rooted := hw.rooted.put hdir habove
  unlinked := hw.unlinked.put hnode
  cwd := Tree.get?_put_of_get? hw.cwd hdir

theorem makeDir (hw : w.Plain) (hp : Tree.AreProper p.names) (h : w.makeDir p = .ok w') :
    w'.Plain := by
  obtain ⟨last, above, hlast, -, habove, hfree, rfl⟩ := makeDir_eq_ok h
  have hname : Tree.AreProper [last] := hp.subset (by simpa using List.mem_of_getLast? hlast)
  refine hw.put ((hw.areProper habove).append hname) (by simp [hfree]) ?_ rfl
  rwa [List.dropLast_concat]

theorem makeDirs (hw : w.Plain) (hp : Tree.AreProper p.names) : (w.makeDirs p).1.Plain :=
  makeDirs_keeps (fun _ _ _ hw hq h => hw.makeDir (hp.subset hq) h) hw

theorem names_ne_nil (hw : w.Plain) (hdir : w.tree.get? (w.placeOf p) ≠ some .dir) :
    p.names ≠ [] := by
  intro hnil
  rw [placeOf, hnil, List.append_nil] at hdir
  exact hdir (hw.get?_start p)

theorem put_placeOf (hw : w.Plain) (hp : Tree.AreProper p.names)
    (hdir : w.tree.get? (w.placeOf p) ≠ some .dir)
    (hparent : w.tree.get? (w.placeOf p.parent) = some .dir) (hnode : node.isLink = false) :
    ({ w with tree := w.tree.put (w.placeOf p) node } : Workspace).Plain := by
  refine hw.put ((hw.areProper (hw.get?_start p)).append hp) hdir ?_ hnode
  rwa [← placeOf_parent (hw.names_ne_nil hdir)]

/-- **Writing a file** puts it at the place that its path names, after directories were made above
it. -/
theorem writeDeep_eq (hw : w.Plain) (hp : p.Spelled) (hup : ".." ∉ p.names) {octets : List UInt8}
    (h : (w.writeDeep p octets).2 = none) :
    p.holdsNul = false ∧ p.IsShort ∧ ∃ above, w.makeDirs p.parent = (above, none) ∧ above.Plain ∧
      above.tree.get? (above.placeOf p.parent) = some .dir ∧
      above.tree.get? (above.placeOf p) ≠ some .dir ∧ (w.writeDeep p octets).1.Plain ∧
      (w.writeDeep p octets).1 =
        { above with tree := above.tree.put (above.placeOf p) (.file octets) } := by
  rw [Workspace.writeDeep] at h ⊢
  split at h
  · cases h
  · rename_i above hmade
    obtain ⟨hnul, place, hplace, hdir, hwrite⟩ := write_eq h
    have hproper := hp.areProper hup hnul
    have habove : (w.makeDirs p.parent).1.Plain :=
      hw.makeDirs (hproper.subset (List.dropLast_subset p.names))
    rw [hmade] at habove
    obtain ⟨hshort, hparent, rfl⟩ := (habove.locateTo_eq_ok (hp.isStraight hup)).mp hplace
    refine ⟨hnul, hshort, above, hmade, habove, hparent, hdir, ?_, hwrite⟩
    rw [hwrite]
    exact habove.put_placeOf hproper hdir hparent rfl

end Plain

end Workspace

end FeatureLint
