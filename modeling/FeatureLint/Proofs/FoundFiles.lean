import FeatureLint.Inspection
import FeatureLint.Proofs.WellFormedTrees

/-!
# The files of a corpus and what they are called

A report tells files apart by what they are called and by nothing else, so two files of a corpus had
better not be called the same.  They are not: a file below the root is called by the names that lead
to it, joined by slashes, and in a well-formed tree no name holds a slash, so the names can be read
off again (`join_slash_injective`).

* `find_fileId_nodup`: the files that are found are called differently, so they are also different.
* `find_holdsNul`: none of their paths holds a NUL.
-/

namespace FeatureLint

/-! ### What stands below a directory -/

namespace Tree

variable {t : Tree} {top : Place} {names : List String}

theorem below_sublist (t : Tree) (top : Place) :
    ((t.below top).map (top ++ ·)).Sublist (t.entries.map Prod.fst) := by
  apply map_filterMap_sublist
  rintro ⟨place, node⟩ - names hnames
  simp only [Option.mem_def, Option.ite_none_right_eq_some, Option.some.injEq] at hnames
  obtain ⟨⟨htop, -⟩, rfl⟩ := hnames
  exact List.prefix_iff_eq_append.mp (List.isPrefixOf_iff_prefix.mp htop)

theorem below_nodup (ht : t.WellFormed) : (t.below top).Nodup :=
  (ht.distinct.sublist (below_sublist t top)).of_map

theorem below_ne_nil (h : names ∈ t.below top) : names ≠ [] := by
  obtain ⟨⟨place, node⟩, -, hnames⟩ := List.mem_filterMap.mp h
  simp only [Option.ite_none_right_eq_some, Option.some.injEq] at hnames
  obtain ⟨⟨-, hne, -⟩, rfl⟩ := hnames
  exact hne

theorem areNames_of_mem_below (ht : t.WellFormed) (h : names ∈ t.below top) : AreNames names := by
  have hplace := (below_sublist t top).subset (List.mem_map_of_mem h)
  exact (ht.named _ hplace).subset (List.subset_append_right top names)

end Tree

/-! ### What files are called -/

theorem join_slash_injective {a b : List String} (ha : Tree.AreNames a)
    (hb : Tree.AreNames b) (ha' : a ≠ []) (hb' : b ≠ [])
    (h : Text.join "/" a = Text.join "/" b) : a = b := by
  have hslash : "/".toList = ['/'] := rfl
  have hlists : a.map String.toList = b.map String.toList := by
    rw [← Tree.splitOn_join hslash ha ha', ← Tree.splitOn_join hslash hb hb', h]
  exact List.map_injective_iff.mpr (fun _ _ => String.toList_injective) hlists

/-- What lies below the root is called by the names that lead there. -/
theorem fileId_below (root : Path) {names : List String} (h : names ≠ []) :
    fileId root (root / Path.ofNames names) = Text.join "/" names := by
  show fileId root ⟨root.anchor, root.names ++ names⟩ = _
  have hroot : (⟨root.anchor, root.names ++ names⟩ : Path) ≠ root := by
    intro he
    have hnames := congrArg Path.names he
    exact h (List.append_right_eq_self.mp hnames)
  have hfrom : root.namesFrom? ⟨root.anchor, root.names ++ names⟩ = some names := by
    simp [Path.namesFrom?]
  rw [fileId, if_neg hroot, hfrom]
  simp [Path.ofNames, Path.text, Path.Anchor.text, h]

theorem fileId_below_nodup (root : Path) {found : List (List String)} (hfound : found.Nodup)
    (hne : ∀ names ∈ found, names ≠ [])
    (hnames : ∀ names ∈ found, Tree.AreNames names) :
    (found.map fun names => fileId root (root / Path.ofNames names)).Nodup := by
  refine hfound.map_on ?_
  intro a ha b hb h
  rw [fileId_below root (hne a ha), fileId_below root (hne b hb)] at h
  exact join_slash_injective (hnames a ha) (hnames b hb) (hne a ha) (hne b hb) h

/-! ### What is found -/

/-- Whether a path leads to a file; if that cannot be told, it does not. -/
def Workspace.isFile (w : Workspace) (p : Path) : Bool := (w.isFile? p).toOption.getD false

theorem Workspace.isFile_eq_true {w : Workspace} {p : Path} :
    w.isFile p = true ↔ w.isFile? p = .ok true := by
  rw [isFile]
  cases w.isFile? p <;> simp [Except.toOption]

namespace Corpus

variable {w : Workspace}

/-- **The files among some paths** can be told if it can be told of each path. -/
theorem filesAmong_eq_ok {paths files : List Path} :
    filesAmong w paths = .ok files ↔
      (∀ p ∈ paths, ∃ isFile, w.isFile? p = .ok isFile) ∧ files = paths.filter w.isFile := by
  induction paths generalizing files with
  | nil => simp [filesAmong, eq_comm]
  | cons p paths ih =>
    rw [filesAmong, List.forall_mem_cons]
    cases hp : w.isFile? p with
    | error fault => simp
    | ok isFile =>
      have hfilter : (p :: paths).filter w.isFile =
          if isFile then p :: paths.filter w.isFile else paths.filter w.isFile := by
        simp [List.filter_cons, Workspace.isFile, hp, Except.toOption]
      rw [hfilter]
      constructor
      · intro h
        cases hrest : filesAmong w paths with
        | error fault => simp [hrest, Except.map] at h
        | ok rest =>
          obtain ⟨hall, rfl⟩ := ih.mp hrest
          simp only [hrest, Except.map, Except.ok.injEq] at h
          exact ⟨⟨⟨isFile, rfl⟩, hall⟩, h.symm⟩
      · rintro ⟨⟨-, hall⟩, rfl⟩
        simp [ih.mpr ⟨hall, rfl⟩, Except.map]

theorem filesAmong_eq_self {paths : List Path} (h : ∀ p ∈ paths, w.isFile? p = .ok true) :
    filesAmong w paths = .ok paths := by
  refine filesAmong_eq_ok.mpr ⟨fun p hp => ⟨true, h p hp⟩, ?_⟩
  rw [List.filter_eq_self.mpr fun p hp => Workspace.isFile_eq_true.mpr (h p hp)]

theorem namesBelow_fileId_nodup (hw : w.tree.WellFormed) (root : Path) :
    ((namesBelow w root).map fun names => fileId root (root / Path.ofNames names)).Nodup := by
  have hsingle : (([[]] : List (List String)).map
      fun names => fileId root (root / Path.ofNames names)).Nodup := List.nodup_singleton _
  rw [namesBelow]
  split
  · split
    · exact fileId_below_nodup root (Tree.below_nodup hw) (fun _ => Tree.below_ne_nil)
        fun _ => Tree.areNames_of_mem_below hw
    · exact hsingle
  · exact hsingle

section Find

variable {filter : NameFilter} {passedOver : List Scalar} {root : Path}

theorem select_sublist {files : List Path} (h : select w filter passedOver root = .ok files) :
    files.Sublist ((namesBelow w root).map (root / Path.ofNames ·)) ∧
      ∀ p ∈ files, w.isFile? p = .ok true := by
  unfold select at h
  split at h
  · obtain ⟨-, rfl⟩ := filesAmong_eq_ok.mp h
    refine ⟨List.filter_sublist.trans (List.filter_sublist.map _), fun p hp => ?_⟩
    exact Workspace.isFile_eq_true.mp (List.mem_filter.mp hp).2
  · cases h
    exact ⟨List.nil_sublist _, by simp⟩
  · cases h

/-- What is found is what is selected, in the order of paths, if there is anything at the root. -/
theorem find_outcome {paths : List Path} (h : (find w filter passedOver root).outcome = .ok paths) :
    (w.exists? root = .ok false ∧ paths = []) ∨ w.exists? root = .ok true ∧
      ∃ files, select w filter passedOver root = .ok files ∧ paths = Path.sort files := by
  rw [find] at h
  split at h
  · cases h
  · rename_i hexists
    cases h
    exact Or.inl ⟨hexists, rfl⟩
  · rename_i hexists
    split at h
    · cases h
    · rename_i files hfiles
      cases h
      exact Or.inr ⟨hexists, files, hfiles, rfl⟩

theorem find_of_wanted {pattern : Pattern} {names : List (List String)}
    (hexists : w.exists? root = .ok true)
    (hwanted : (namesBelow w root).filter (isWanted pattern passedOver root) = names)
    (hfiles : ∀ n ∈ names, w.isFile? (root / Path.ofNames n) = .ok true) :
    (find w (.pattern pattern) passedOver root).outcome =
      .ok (Path.sort (names.map (root / Path.ofNames ·))) := by
  have hselect : select w (.pattern pattern) passedOver root =
      .ok (names.map (root / Path.ofNames ·)) := by
    show filesAmong w (((namesBelow w root).filter _).map _) = _
    rw [hwanted]
    exact filesAmong_eq_self (List.forall_mem_map.mpr hfiles)
  rw [find, hexists]
  simp only [hselect]

/-- **The files that are found are called differently.** -/
theorem find_fileId_nodup (hw : w.tree.WellFormed) {paths : List Path}
    (h : (find w filter passedOver root).outcome = .ok paths) :
    (paths.map (fileId root)).Nodup := by
  rcases find_outcome h with ⟨-, rfl⟩ | ⟨-, files, hfiles, rfl⟩
  · exact List.nodup_nil
  · have hsub := (select_sublist hfiles).1.map (fileId root)
    rw [List.map_map] at hsub
    have hnodup := (namesBelow_fileId_nodup hw root).sublist hsub
    exact (((List.mergeSort_perm files Path.le).map (fileId root)).nodup_iff).mpr hnodup

theorem find_holdsNul {paths : List Path} (h : (find w filter passedOver root).outcome = .ok paths)
    {p : Path} (hp : p ∈ paths) : p.holdsNul = false := by
  rcases find_outcome h with ⟨-, rfl⟩ | ⟨-, files, hfiles, rfl⟩
  · simp at hp
  · have hfile := (select_sublist hfiles).2 p (List.mem_mergeSort.mp hp)
    by_contra hnul
    rw [Bool.not_eq_false] at hnul
    simp [Workspace.isFile?, Workspace.node?, hnul, Except.map] at hfile

end Find

end Corpus

end FeatureLint
