import FeatureLint.Proofs.NearestProject
import Mathlib.Data.List.Sort

/-!
# What is read after a file was written

A run reads three things: the settings of a project, the names below a root, and the files that it
finds there.  Here a file was written, and directories above it, since they were read the last time
(`Workspace.Grown`), and the file is none of those that are read.  Then all three are the same.

In a tree without links the files that are found can be told without the search: they stand at
places below the root, have names that are wanted, and no path to them is too long (`mem_find`).
So it does not matter that the root itself may have come since, or that directories have come with
the names of feature files.  It has to be asked for only that the search comes to its end, as a
directory that has come can make a name too long that was merely missing.

* `Corpus.find_grown`: **the same files are found.**
* `Inspection.inspectAll_grown`: there is the same report.
* `Project.settings_grown`: the same settings are read.
-/

namespace FeatureLint

/-! ### The corpus -/

namespace Path

theorem IsStraight.append {root : Path} {names : List String} (hroot : root.IsStraight)
    (hnames : ∀ name ∈ names, Tree.isProper name = true) : (root / Path.ofNames names).IsStraight :=
  fun name hname => (List.mem_append.mp hname).elim (hroot name) (hnames name)

end Path

namespace Corpus

variable {w w' : Workspace} {pattern : Pattern} {filter : NameFilter} {passedOver : List Scalar}
  {root p : Path} {paths paths' : List Path} {names : List String} {f : Place}

theorem placeOf_append (w : Workspace) (root : Path) (names : List String) :
    w.placeOf (root / .ofNames names) = w.placeOf root ++ names :=
  (List.append_assoc _ _ _).symm

theorem isProper_of_mem_namesBelow (hw : w.Plain) (h : names ∈ namesBelow w root) :
    ∀ name ∈ names, Tree.isProper name = true := by
  rw [namesBelow] at h
  split at h
  · split at h
    · obtain ⟨dirs, name, rfl⟩ := names.eq_nil_or_concat'.resolve_left (Tree.below_ne_nil h)
      obtain ⟨-, node, hnode⟩ := Tree.mem_below.mp h
      exact fun name hname => (hw.named.of_get? hnode name hname).1
    · simp [List.mem_singleton.mp h]
  · simp [List.mem_singleton.mp h]

theorem mem_namesBelow (hw : w.Plain) (hroot : w.locate root = .ok (w.placeOf root))
    {octets : List UInt8} (hfile : w.tree.get? (w.placeOf root ++ names) = some (.file octets)) :
    names ∈ namesBelow w root := by
  by_cases hne : names = []
  · rw [hne, List.append_nil] at hfile
    simp [namesBelow, hroot, hfile, hne]
  · obtain ⟨dirs, name, rfl⟩ := names.eq_nil_or_concat'.resolve_left hne
    rw [namesBelow_dir hroot (hw.rooted.get?_of_append hfile hne), Tree.mem_below]
    refine ⟨fun n hn => ?_, _, hfile⟩
    have hsplit : w.placeOf root ++ (dirs ++ [name]) =
        w.placeOf root ++ dirs.take n ++ (dirs.drop n ++ [name]) := by
      rw [List.append_assoc, ← List.append_assoc (dirs.take n), List.take_append_drop]
    rw [hsplit] at hfile
    exact hw.rooted.get?_of_append hfile (by simp)

/-- In a directory that is there, a root with too long a path is a fault, though nothing can stand
there. -/
theorem exists?_tooLong (hw : w.Plain) (hroot : root.IsStraight) (hnul : root.holdsNul = false)
    (hdir : w.tree.get? (w.placeOf root.parent) = some .dir) (hlong : ¬ root.IsShort) :
    w.exists? root = .error (.system .nameTooLong root) := by
  have hlocate := hw.locate_tooLong hroot hdir hlong
  simp [Workspace.exists?, Workspace.node?, hnul, Workspace.stat, hlocate, Except.map]

theorem exists?_ne_false (hw : w.Plain) (hroot : root.IsStraight)
    (hnames : ∀ name ∈ names, Tree.isProper name = true)
    (hfile : w.isFile? (root / .ofNames names) = .ok true) : w.exists? root ≠ .ok false := by
  obtain ⟨hnul, -, octets, hnode⟩ := (hw.isFile?_iff (hroot.append hnames)).mp hfile
  have hnul' : root.holdsNul = false :=
    List.any_eq_false.mpr fun name hname =>
      List.any_eq_false.mp hnul name (List.mem_append_left names hname)
  obtain ⟨node, hthere⟩ : ∃ node, w.tree.get? (w.placeOf root) = some node := by
    rw [placeOf_append] at hnode
    by_cases hne : names = []
    · rw [hne, List.append_nil] at hnode
      exact ⟨_, hnode⟩
    · exact ⟨_, hw.rooted.get?_of_append hnode hne⟩
  by_cases hshort : root.IsShort
  · rw [Workspace.exists?_eq_ok_true.mpr ⟨hnul', node, (hw.stat_iff hroot).mpr ⟨hshort, hthere⟩⟩]
    simp
  · rw [exists?_tooLong hw hroot hnul' (hw.get?_parent hthere) hshort]
    simp

/-- **What is found**, if the search comes to its end. -/
theorem mem_find (hw : w.Plain) (hroot : root.IsStraight)
    (h : (find w (.pattern pattern) passedOver root).outcome = .ok paths) :
    p ∈ paths ↔ ∃ names, (∀ name ∈ names, Tree.isProper name = true) ∧
      isWanted pattern passedOver root names = true ∧ p = root / .ofNames names ∧
      w.isFile? p = .ok true := by
  rcases find_outcome h with ⟨hnone, rfl⟩ | ⟨hexists, files, hfiles, rfl⟩
  · refine iff_of_false List.not_mem_nil ?_
    rintro ⟨names, hnames, -, rfl, hfile⟩
    exact exists?_ne_false hw hroot hnames hfile hnone
  · rw [Path.mem_sort, mem_select hfiles]
    constructor
    · rintro ⟨names, hmem, hwanted, rfl, hfile⟩
      exact ⟨names, isProper_of_mem_namesBelow hw hmem, hwanted, rfl, hfile⟩
    · rintro ⟨names, hnames, hwanted, rfl, hfile⟩
      obtain ⟨-, -, octets, hnode⟩ := (hw.isFile?_iff (hroot.append hnames)).mp hfile
      rw [placeOf_append] at hnode
      obtain ⟨-, node, hstat⟩ := Workspace.exists?_eq_ok_true.mp hexists
      obtain ⟨hshort, hthere⟩ := (hw.stat_iff hroot).mp hstat
      exact ⟨names, mem_namesBelow hw (hw.locate_of_get? hroot hshort hthere) hnode, hwanted, rfl,
        hfile⟩

theorem get?_of_mem_namesBelow (hw : w.Plain) (hroot : root.IsStraight)
    (hexists : w.exists? root = .ok true) (h : names ∈ namesBelow w root) :
    ∃ node, w.tree.get? (w.placeOf (root / .ofNames names)) = some node := by
  obtain ⟨-, node, hstat⟩ := Workspace.exists?_eq_ok_true.mp hexists
  obtain ⟨hshort, hthere⟩ := (hw.stat_iff hroot).mp hstat
  have hlocate := hw.locate_of_get? hroot hshort hthere
  rw [placeOf_append]
  by_cases hdir : w.tree.get? (w.placeOf root) = some .dir
  · rw [namesBelow_dir hlocate hdir] at h
    obtain ⟨dirs, name, rfl⟩ := names.eq_nil_or_concat'.resolve_left (Tree.below_ne_nil h)
    exact (Tree.mem_below.mp h).2
  · simp only [namesBelow, hlocate, hdir, if_false, List.mem_singleton] at h
    rw [h, List.append_nil]
    exact ⟨node, hthere⟩

/-- **The search comes to its end** if no path is too long. -/
theorem exists_find_of_isShort (hw : w.Plain) (hroot : root.IsStraight)
    (hexists : w.exists? root = .ok true)
    (hshort : ∀ names ∈ namesBelow w root, (root / Path.ofNames names).IsShort) :
    ∃ paths, (find w (.pattern pattern) passedOver root).outcome = .ok paths := by
  have hnul := (Workspace.exists?_eq_ok_true.mp hexists).1
  have htold : ∀ p ∈ ((namesBelow w root).filter (isWanted pattern passedOver root)).map
      (root / Path.ofNames ·), ∃ isFile, w.isFile? p = .ok isFile := by
    classical
    intro p hp
    obtain ⟨names, hmem, rfl⟩ := List.mem_map.mp hp
    have hbelow := (List.mem_filter.mp hmem).1
    obtain ⟨node, hnode⟩ := get?_of_mem_namesBelow hw hroot hexists hbelow
    have hstraight := hroot.append (isProper_of_mem_namesBelow hw hbelow)
    have hnul' := hw.named.holdsNul (placeOf_append w root names ▸ hnode) hnul
    exact ⟨_, (hw.isFile?_eq_ok hstraight hnul' (hw.get?_parent hnode)).mpr
      ⟨hshort names hbelow, decide_eq_true_iff⟩⟩
  have hselect : select w (.pattern pattern) passedOver root = .ok _ :=
    filesAmong_eq_ok.mpr ⟨htold, rfl⟩
  simp only [find, hexists, hselect]
  exact ⟨_, rfl⟩

theorem exists_find_here (hw : w.Plain) (hcwd : w.cwd = [])
    (hshort : ∀ place ∈ w.tree.entries.map Prod.fst, (Path.ofNames place).IsShort) :
    ∃ paths, (find w (.pattern pattern) passedOver (.ofNames [])).outcome = .ok paths := by
  have hhere : (Path.ofNames []).IsStraight := by decide
  have hexists := Workspace.exists?_here hw.cwd
  refine exists_find_of_isShort hw hhere hexists fun names hnames => ?_
  obtain ⟨node, hnode⟩ := get?_of_mem_namesBelow hw hhere hexists hnames
  have hplace : w.placeOf (Path.ofNames [] / Path.ofNames names) = names := by
    show w.cwd ++ names = names
    rw [hcwd, List.nil_append]
  rw [hplace] at hnode
  show (Path.ofNames names).IsShort
  by_cases hne : names = []
  · rw [hne]
    decide +kernel
  · exact hshort names ((Tree.mem_map_fst_iff hne).mpr ⟨node, hnode⟩)

theorem find_value {v : Value} (h : (find w (.value v) passedOver root).outcome = .ok paths) :
    paths = [] := by
  rcases find_outcome h with ⟨-, hnil⟩ | ⟨-, files, hfiles, rfl⟩
  · exact hnil
  · cases hnames : namesBelow w root with
    | nil =>
      simp only [select, hnames, Except.ok.injEq] at hfiles
      rw [← hfiles, Path.sort, List.mergeSort_nil]
    | cons first others => simp [select, hnames] at hfiles

/-- **The same files are found** after another one was written, if that is not found as well. -/
theorem find_grown (h : w.Grown f w') (hroot : root.IsStraight)
    (hfind : (find w filter passedOver root).outcome = .ok paths)
    (hfind' : (find w' filter passedOver root).outcome = .ok paths')
    (haside : ∀ p ∈ paths', w'.locate p ≠ .ok f) : paths' = paths := by
  cases filter with
  | value v => rw [find_value hfind, find_value hfind']
  | pattern pattern =>
    -- both lists are in order, so it is enough that they have the same members
    refine (find_pairwise h.plain'.wellFormed hfind').eq_of_mem_iff
      (find_pairwise h.plain.wellFormed hfind) fun p => ?_
    rw [mem_find h.plain' hroot hfind', mem_find h.plain hroot hfind]
    refine exists_congr fun names => and_congr_right fun hnames => and_congr_right fun hwanted =>
      and_congr_right ?_
    rintro rfl
    have hp := hroot.append hnames
    by_cases hf : w.placeOf (root / .ofNames names) = f
    · -- the place of the new file: it would be found now
      have hnew : (root / Path.ofNames names).holdsNul = false →
          ¬ (root / Path.ofNames names).IsShort := by
        intro hnul hshort
        have hfile := (h.plain'.isFile?_iff hp).mpr
          ⟨hnul, hshort, by rw [Workspace.placeOf_congr h.cwd, hf]; exact h.file⟩
        exact haside _ ((mem_find h.plain' hroot hfind').mpr ⟨names, hnames, hwanted, rfl, hfile⟩)
          (h.locate_new hp hshort hf)
      rw [h.plain'.isFile?_iff hp, h.plain.isFile?_iff hp]
      exact iff_of_false (fun h' => hnew h'.1 h'.2.1) fun h' => hnew h'.1 h'.2.1
    · exact h.isFile?_iff hp hf

theorem isFile?_of_mem_find (h : (find w filter passedOver root).outcome = .ok paths)
    (hp : p ∈ paths) : w.isFile? p = .ok true := by
  rcases find_outcome h with ⟨-, rfl⟩ | ⟨-, files, hfiles, rfl⟩
  · simp at hp
  · exact (select_sublist hfiles).2 p (Path.mem_sort.mp hp)

end Corpus

/-! ### The report -/

theorem Logged.each_congr {α β : Type} {f g : α → Logged β} {l : List α}
    (h : ∀ a ∈ l, f a = g a) : each f l = each g l := by
  induction l with
  | nil => rfl
  | cons a l ih =>
    obtain ⟨ha, hl⟩ := List.forall_mem_cons.mp h
    rw [each, each, ha, ih hl]

namespace Inspection

variable {w w' : Workspace} {s : Settings} {root : Path} {paths : List Path} {f : Place}

theorem inspect_congr (h : ∀ p ∈ paths, w'.outline p = w.outline p) :
    inspect w' s root paths = inspect w s root paths := by
  have hvisit : ∀ p ∈ Path.sort paths, visit w' s.ceiling root p = visit w s.ceiling root p := by
    intro p hp
    rw [visit, visit, h p (Path.mem_sort.mp hp)]
  rw [inspect, inspect, readings, readings, Logged.each_congr hvisit]

/-- **There is the same report**, or the same fault, after another file was written. -/
theorem inspectAll_grown (h : w.Grown f w') (hroot : root.IsStraight) {paths' : List Path}
    (hfind : (Corpus.find w s.nameFilter s.passedOver root).outcome = .ok paths)
    (hfind' : (Corpus.find w' s.nameFilter s.passedOver root).outcome = .ok paths')
    (haside : ∀ p ∈ paths', w'.locate p ≠ .ok f) :
    (inspectAll w' s root).outcome = (inspectAll w s root).outcome := by
  obtain rfl := Corpus.find_grown h hroot hfind hfind' haside
  have houtline : ∀ p ∈ paths', w'.outline p = w.outline p := by
    intro p hp
    obtain ⟨octets, hread⟩ := Workspace.isFile?_iff_read.mp (Corpus.isFile?_of_mem_find hfind hp)
    rw [Workspace.outline, Workspace.outline, hread, h.read hread (haside p hp)]
  simp only [inspectAll, Logged.andThen, hfind, hfind', inspect_congr houtline]

end Inspection

/-! ### The settings -/

namespace Project

variable {w w' : Workspace} {dirs : List Path} {file dir : Path} {found : Option Path} {f : Place}

theorem firstIn_kept
    (h : ∀ dir ∈ dirs, ∀ b, w.isFile? (dir / fileName) = .ok b →
      w'.isFile? (dir / fileName) = .ok b)
    (hfirst : firstIn w dirs = .ok found) : firstIn w' dirs = .ok found := by
  induction dirs with
  | nil => exact hfirst
  | cons dir dirs ih =>
    obtain ⟨hdir, hdirs⟩ := List.forall_mem_cons.mp h
    rw [firstIn] at hfirst ⊢
    split at hfirst
    · cases hfirst
    · rename_i hfile
      simp only [hdir true hfile, hfirst]
    · rename_i hfile
      simp only [hdir false hfile, ih hdirs hfirst]

theorem straight_of_mem_searched (hw : w.Plain) (h : dir ∈ searched w) :
    (dir / fileName).IsStraight ∧ (dir / fileName).holdsNul = false ∧
      w.tree.get? (w.placeOf (dir / fileName).parent) = some .dir := by
  obtain ⟨above, ⟨below, hcwd⟩, rfl⟩ := mem_searched.mp h
  have hproper : Tree.AreProper (above ++ ["pyproject.toml"]) :=
    ((hw.areProper hw.cwd).subset (hcwd ▸ List.subset_append_left above below)).append (by decide)
  have hdir : w.tree.get? above = some .dir := hw.rooted.dir_of_append (hcwd ▸ hw.cwd)
  refine ⟨fun name hname => (hproper name hname).1, ?_, ?_⟩
  · exact List.any_eq_false.mpr fun name hname => by simpa using (hproper name hname).2.1
  · show w.tree.get? ([] ++ (above ++ ["pyproject.toml"]).dropLast) = some .dir
    rwa [List.nil_append, List.dropLast_concat]

theorem settings_root (hw : w.Plain) (hcwd : w.cwd = [])
    (hnone : w.tree.get? ["pyproject.toml"] = none) :
    settings w none = ⟨[.noProject fileName], .ok .default⟩ := by
  have hfile : w.isFile? ((⟨.root, []⟩ : Path) / fileName) = .ok false := by
    refine (hw.isFile?_eq_ok (by decide) (by decide) ?_).mpr ⟨by decide +kernel, ?_⟩
    · rfl
    · have hplace : w.placeOf ((⟨.root, []⟩ : Path) / fileName) = ["pyproject.toml"] := rfl
      simp [hplace, hnone]
  have hchoose : choose w none = .ok none := by
    rw [choose, find?, searched_root hcwd]
    simp only [firstIn, hfile]
  rw [settings, hchoose]

theorem locate_searched_ne (hw : w.Plain) (hcwd : w.cwd = []) {place : Place}
    (hne : ["pyproject.toml"] ≠ place) (h : dir ∈ searched w) :
    w.locate (dir / fileName) ≠ .ok place := by
  obtain rfl : dir = ⟨.root, []⟩ := by simpa [searched_root hcwd] using h
  exact hw.locate_ne (by decide) hne

section Grown

variable {named : Option Path} (h : w.Grown f w')
  (hnamed : ∀ file, named = some file → w'.locate file ≠ .ok f)
  (hsearched : ∀ dir ∈ searched w, w'.locate (dir / fileName) ≠ .ok f)

include h hnamed hsearched

theorem choose_grown (hchoose : choose w named = .ok found) :
    choose w' named = .ok found ∧
      ∀ file, found = some file → w.isFile? file = .ok true ∧ w'.locate file ≠ .ok f := by
  cases named with
  | none =>
    have hdirs : searched w' = searched w := by rw [searched, searched, h.cwd]
    have hkept : find? w' = .ok found := by
      rw [find?, hdirs]
      refine firstIn_kept (fun dir hdir b hb => ?_) hchoose
      obtain ⟨hstraight, hnul, habove⟩ := straight_of_mem_searched h.plain hdir
      exact h.isFile?_eq_ok hstraight hnul habove (hsearched dir hdir) hb
    refine ⟨hkept, ?_⟩
    rintro file rfl
    obtain ⟨dir, rfl, hdir, hfile, -⟩ := find?_eq_some_iff.mp hchoose
    exact ⟨hfile, hsearched _ (mem_searched.mpr ⟨dir, hdir, rfl⟩)⟩
  | some file =>
    rw [choose] at hchoose ⊢
    split at hchoose
    · cases hchoose
    · rename_i hfile
      cases hchoose
      obtain ⟨octets, hread⟩ := Workspace.isFile?_iff_read.mp hfile
      have hf := hnamed file rfl
      have hfile' : w'.isFile? file = .ok true :=
        Workspace.isFile?_iff_read.mpr ⟨octets, h.read hread hf⟩
      simp only [hfile']
      refine ⟨trivial, ?_⟩
      rintro _ ⟨⟩
      exact ⟨hfile, hf⟩
    · cases hchoose

/-- **The same settings are read** after another file was written, if that is neither the one that
was named nor one that is looked for. -/
theorem settings_grown {s : Settings} (hs : (settings w named).outcome = .ok s) :
    settings w' named = settings w named := by
  cases hchoose : choose w named with
  | error fault => simp [settings, hchoose, Logged.fail] at hs
  | ok found =>
    obtain ⟨hchoose', hfound⟩ := choose_grown h hnamed hsearched hchoose
    cases found with
    | none => simp only [settings, hchoose, hchoose']
    | some file =>
      obtain ⟨hfile, hf⟩ := hfound file rfl
      obtain ⟨octets, hread⟩ := Workspace.isFile?_iff_read.mp hfile
      simp only [settings, hchoose, hchoose', settingsIn, hread, h.read hread hf]

end Grown

end Project

end FeatureLint
