import FeatureLint.Proofs.CalledAlike
import FeatureLint.Proofs.ExactCorpus

/-!
# Paths from the root

If the root of a corpus is a directory, a file of the corpus is called by the path that leads to it
from there.  This text can be followed: it spells the path (`ofString_fileId_below`), and from the
root the path leads to the file again.  How the root is written does not matter, be it as `.`,
upwards, or from the root of the file system: its names stand in front of both paths.

For the same reason the files come in the order of these paths (`before_append`): what two paths
have in front in common does not tell which comes first.  The order of the texts is another one:
`a/z.feature` stands before `a-b.feature`, and a slash behind a hyphen.
-/

namespace FeatureLint

namespace Path

variable {root : Path} {names names' : List String}

theorem parts_append (root : Path) (names : List String) :
    (root / ofNames names).parts = root.parts ++ names := by
  obtain ⟨anchor, above⟩ := root
  cases anchor <;> rfl

theorem before_append :
    (root / ofNames names).Before (root / ofNames names') ↔
      (ofNames names).Before (ofNames names') := by
  rw [Before, parts_append, parts_append, lex_append_left_iff]
  rfl

theorem ofString_fileId_below (hne : names ≠ []) (hnames : (ofNames names).Spelled) :
    ofString (fileId root (root / ofNames names)) = ofNames names := by
  rw [fileId_below_text root hne, ofString_text hnames]

end Path

namespace Corpus

variable {w : Workspace} {filter : NameFilter} {passedOver : List Scalar} {root p : Path}
  {paths : List Path}

theorem spelled_of_mem_below (hw : w.tree.WellFormed) (hnamed : w.tree.ProperlyNamed) {top : Place}
    {names : List String} (h : names ∈ w.tree.below top) : (Path.ofNames names).Spelled := by
  have hplace := (Tree.below_sublist w.tree top).subset (List.mem_map_of_mem h)
  have hproper : ∀ name ∈ names, name ≠ "." ∧ name ≠ ".." ∧ name ≠ Tree.slash := fun name hname =>
    Tree.isProper_iff.mp (hnamed _ hplace name (List.mem_append_right top hname)).1
  exact
    { areNames := Tree.areNames_of_mem_below hw h
      notEmpty := fun hmem => (hproper "" hmem).2.2 rfl
      notHere := fun hmem => (hproper "." hmem).1 rfl }

/-- Below a directory a file is found at the end of a path of names from there. -/
theorem exists_below_of_mem_find (hw : w.tree.WellFormed) (hnamed : w.tree.ProperlyNamed)
    (hdir : w.isDir root = true) (h : (find w filter passedOver root).outcome = .ok paths)
    (hp : p ∈ paths) :
    ∃ names, names ≠ [] ∧ (Path.ofNames names).Spelled ∧ p = root / .ofNames names := by
  rcases find_outcome h with ⟨-, rfl⟩ | ⟨-, files, hfiles, rfl⟩
  · simp at hp
  · obtain ⟨top, hroot, htop⟩ := Workspace.stat_eq_ok.mp (Workspace.isDir_eq_true.mp hdir).2
    have hmem := (select_sublist hfiles).1.subset (Path.mem_sort.mp hp)
    rw [namesBelow_dir hroot htop] at hmem
    obtain ⟨names, hnames, rfl⟩ := List.mem_map.mp hmem
    exact ⟨names, Tree.below_ne_nil hnames, spelled_of_mem_below hw hnamed hnames, rfl⟩

/-- **What files are called leads back to them.**  Below a directory no file is the directory, and
each is called by the path that leads to it from there.  This path, read off from its text again and
followed from the root, is the path of the file; the files are in the order of these paths; and no
two of them are called the same. -/
theorem find_leads_back (w : Workspace) (filter : NameFilter) (passedOver : List Scalar)
    (root : Path) (paths : List Path) (wellFormed : w.tree.WellFormed)
    (named : w.tree.ProperlyNamed) (isDir : w.isDir root = true)
    (found : (find w filter passedOver root).outcome = .ok paths) :
    (∀ p ∈ paths, p ≠ root ∧ (∃ names, root.namesFrom? p = some names ∧
        fileId root p = (Path.ofNames names).text) ∧
      root / Path.ofString (fileId root p) = p) ∧
      (∀ p ∈ paths, ∀ q ∈ paths, p.Before q ↔
        (Path.ofString (fileId root p)).Before (.ofString (fileId root q))) ∧
      (paths.map (fileId root)).Nodup := by
  have hbelow : ∀ p ∈ paths, ∃ names, names ≠ [] ∧ (Path.ofNames names).Spelled ∧
      p = root / .ofNames names :=
    fun p => exists_below_of_mem_find wellFormed named isDir found
  refine ⟨fun p hp => ?_, fun p hp q hq => ?_, find_fileId_nodup wellFormed found⟩
  · obtain ⟨names, hne, hnames, rfl⟩ := hbelow p hp
    have hroot : root / Path.ofNames names ≠ root := fun he =>
      hne (List.append_right_eq_self.mp (congrArg Path.names he))
    have hfrom : root.namesFrom? (root / Path.ofNames names) = some names :=
      Path.namesFrom?_eq_some.mpr rfl
    refine ⟨hroot, ⟨names, hfrom, fileId_below_text root hne⟩, ?_⟩
    rw [Path.ofString_fileId_below hne hnames]
  · obtain ⟨names, hne, hnames, rfl⟩ := hbelow p hp
    obtain ⟨names', hne', hnames', rfl⟩ := hbelow q hq
    rw [Path.ofString_fileId_below hne hnames, Path.ofString_fileId_below hne' hnames',
      Path.before_append]

/-- A run in a directory below the root, which is written `..`, with two files that come in another
order than what they are called. -/
theorem find_leads_back_up :
    let w : Workspace := ⟨⟨[(["d"], .dir), (["a"], .dir), (["a", "z.feature"], .file []),
      (["a-b.feature"], .file [])]⟩, ["d"]⟩
    let root := Path.ofNames [".."]
    let paths : List Path := [.ofNames ["..", "a", "z.feature"], .ofNames ["..", "a-b.feature"]]
    w.tree.WellFormed ∧ w.tree.ProperlyNamed ∧ w.isDir root = true ∧
      (find w (.pattern .dotFeature) [] root).outcome = .ok paths ∧
      paths.map (fileId root) = ["a/z.feature", "a-b.feature"] ∧
      (∀ p ∈ paths, p ≠ root ∧ (∃ names, root.namesFrom? p = some names ∧
          fileId root p = (Path.ofNames names).text) ∧
        root / Path.ofString (fileId root p) = p) ∧
      (∀ p ∈ paths, ∀ q ∈ paths, p.Before q ↔
        (Path.ofString (fileId root p)).Before (.ofString (fileId root q))) ∧
      (paths.map (fileId root)).Nodup := by
  intro w root paths
  have hwellFormed : w.tree.WellFormed := by decide +kernel
  have hnamed : w.tree.ProperlyNamed := by decide +kernel
  have hroot : w.tree.get? [] = some .dir := rfl
  have hd : w.tree.get? ["d"] = some .dir := rfl
  have ha : w.tree.get? ([] ++ ["a"]) = some .dir := rfl
  have hz : w.tree.get? (["a"] ++ ["z.feature"]) = some (.file []) := rfl
  have hb : w.tree.get? ([] ++ ["a-b.feature"]) = some (.file []) := rfl
  have hup : ∀ rest, w.tree.walk false Tree.maxLinks ["d"] (".." :: rest) =
      w.tree.walk false Tree.maxLinks [] rest := fun rest => Tree.walk_up hd
  have hwalkz : w.tree.walk false Tree.maxLinks ["d"] ["..", "a", "z.feature"] =
      .ok ["a", "z.feature"] := by
    rw [hup, Tree.walk_name hroot ha (by simp) (by decide) (by decide),
      Tree.walk_name ha hz (by simp) (by decide) (by decide), Tree.walk]
    rfl
  have hwalkb : w.tree.walk false Tree.maxLinks ["d"] ["..", "a-b.feature"] =
      .ok ["a-b.feature"] := by
    rw [hup, Tree.walk_name hroot hb (by simp) (by decide) (by decide), Tree.walk]
    rfl
  have hlocate : w.locate root = .ok [] := by
    rw [Workspace.locate, Workspace.locateTo, if_neg (by decide +kernel)]
    show w.tree.walk false Tree.maxLinks ["d"] [".."] = .ok []
    rw [hup, Tree.walk]
  have hstat : w.stat root = .ok .dir := Workspace.stat_eq_ok.mpr ⟨[], hlocate, hroot⟩
  have hdir : w.isDir root = true := Workspace.isDir_eq_true.mpr ⟨by decide, hstat⟩
  have hexists : w.exists? root = .ok true :=
    Workspace.exists?_eq_ok_true.mpr ⟨by decide, .dir, hstat⟩
  have hwanted : (namesBelow w root).filter (isWanted .dotFeature [] root) =
      [["a", "z.feature"], ["a-b.feature"]] := by
    rw [namesBelow_dir hlocate hroot]
    decide +kernel
  have hfiles : ∀ names ∈ [["a", "z.feature"], ["a-b.feature"]],
      w.isFile? (root / .ofNames names) = .ok true := by
    intro names hnames
    rcases List.mem_cons.mp hnames with rfl | hnames
    · exact Workspace.isFile?_of_stat (by decide)
        (Workspace.stat_of_walk (by decide +kernel) hwalkz hz)
    · rw [List.mem_singleton.mp hnames]
      exact Workspace.isFile?_of_stat (by decide)
        (Workspace.stat_of_walk (by decide +kernel) hwalkb hb)
  have hfound : (find w (.pattern .dotFeature) [] root).outcome = .ok paths := by
    rw [find_of_wanted hexists hwanted hfiles]
    exact congrArg Except.ok (List.mergeSort_of_pairwise (by decide +kernel))
  exact ⟨hwellFormed, hnamed, hdir, hfound, by decide +kernel,
    find_leads_back w (.pattern .dotFeature) [] root paths hwellFormed hnamed hdir hfound⟩

end Corpus

end FeatureLint
