import FeatureLint.Proofs.ReportOrder

/-!
# Which files belong to a corpus

What is searched is a list of entries, filtered by names and by what paths lead to.  What is meant
is a walk: from the root one enters directory after directory, never through a link and never one
that is to be passed over, and takes the files there whose names the pattern takes.  The two agree.

* `Tree.Entered`: the directories that are entered, and `Corpus.Belongs`: the files that belong to
  the corpus.  Neither speaks of lists or of the order of the search.
* `Tree.entered_iff`: what is entered has directories on the way to it and none that is passed over.
* `Workspace.stat_below`: the path to something in such a directory leads there, if no name is too
  long.  This is where the root comes in, which may itself be reached through links.
* `Corpus.find_exact`: **exactly the files that belong to the corpus are found.**
-/

namespace FeatureLint

namespace Tree

variable {t : Tree} {top : Place} {dirs names : List String} {name : String}

/-- Names as they stand in directories: proper ones, without a NUL. -/
def ProperlyNamed (t : Tree) : Prop :=
  ∀ place ∈ t.entries.map Prod.fst, ∀ name ∈ place, isProper name = true ∧ '\x00' ∉ name.toList

instance (t : Tree) : Decidable t.ProperlyNamed :=
  inferInstanceAs (Decidable (∀ place ∈ t.entries.map Prod.fst, ∀ name ∈ place,
    isProper name = true ∧ '\x00' ∉ name.toList))

theorem ProperlyNamed.of_get? {node : Node} (h : t.ProperlyNamed)
    (hnode : t.get? (top ++ names) = some node) :
    ∀ name ∈ names, isProper name = true ∧ '\x00' ∉ name.toList := by
  intro name hname
  have hne : top ++ names ≠ [] := List.append_ne_nil_of_right_ne_nil _ (List.ne_nil_of_mem hname)
  have hplace := (mem_map_fst_iff hne).mpr ⟨node, hnode⟩
  exact h _ hplace name (List.mem_append_right top hname)

theorem ProperlyNamed.holdsNul {node : Node} (h : t.ProperlyNamed)
    (hnode : t.get? (top ++ names) = some node) {root : Path} (hroot : root.holdsNul = false) :
    (root / Path.ofNames names).holdsNul = false := by
  show (root.names ++ names).any (fun name => name.toList.contains '\x00') = false
  rw [List.any_append, Bool.or_eq_false_iff]
  refine ⟨hroot, List.any_eq_false.mpr fun name hname => ?_⟩
  simpa using (h.of_get? hnode name hname).2

theorem forall_mem_steps {P : Place → Prop} :
    (∀ place ∈ steps top names, P place) ↔ ∀ n < names.length, P (top ++ names.take n) := by
  simp [steps]

/-- What stands below a directory has directories on the way to it, and is there. -/
theorem mem_below :
    dirs ++ [name] ∈ t.below top ↔
      (∀ n ≤ dirs.length, t.get? (top ++ dirs.take n) = some .dir) ∧
        ∃ node, t.get? (top ++ (dirs ++ [name])) = some node := by
  have hsteps : (steps top (dirs ++ [name])).all (fun s => t.get? s = some .dir) = true ↔
      ∀ n ≤ dirs.length, t.get? (top ++ dirs.take n) = some .dir := by
    simp only [List.all_eq_true, decide_eq_true_eq, forall_mem_steps, List.length_append,
      List.length_singleton, Nat.lt_succ_iff]
    refine forall₂_congr fun n hn => ?_
    rw [List.take_append_of_le_length hn]
  rw [← mem_map_fst_iff (by simp), List.mem_map, below, List.mem_filterMap]
  constructor
  · rintro ⟨entry, hentry, hnames⟩
    simp only [Option.ite_none_right_eq_some, Option.some.injEq] at hnames
    obtain ⟨⟨htop, -, hdirs⟩, hnames⟩ := hnames
    rw [hnames, hsteps] at hdirs
    refine ⟨hdirs, entry, hentry, ?_⟩
    rw [← hnames]
    exact (List.prefix_iff_eq_append.mp (List.isPrefixOf_iff_prefix.mp htop)).symm
  · rintro ⟨hdirs, entry, hentry, hplace⟩
    refine ⟨entry, hentry, ?_⟩
    have hdrop : entry.1.drop top.length = dirs ++ [name] := by rw [hplace, List.drop_left]
    have htop : top.isPrefixOf entry.1 = true := by
      rw [hplace]
      exact List.isPrefixOf_iff_prefix.mpr (List.prefix_append top _)
    simp only [hdrop, htop, hsteps.mpr hdirs]
    simp

/-! ### Directories that are entered -/

/-- The directories below `top` that are looked into: `top` itself, and from there on those that are
no links and are not to be passed over. -/
inductive Entered (t : Tree) (passedOver : List Scalar) (top : Place) : List String → Prop
  | top : t.get? top = some .dir → Entered t passedOver top []
  | into {dirs : List String} {dir : String} : Entered t passedOver top dirs →
      t.get? (top ++ (dirs ++ [dir])) = some .dir → .text dir ∉ passedOver →
      Entered t passedOver top (dirs ++ [dir])

theorem Entered.get? {passedOver : List Scalar} (h : Entered t passedOver top dirs) (n : Nat)
    (hn : n ≤ dirs.length) : t.get? (top ++ dirs.take n) = some .dir := by
  induction h with
  | top hdir =>
    rw [List.take_nil, List.append_nil]
    exact hdir
  | @into dirs dir _ hdir _ ih =>
    by_cases hlast : n ≤ dirs.length
    · rw [List.take_append_of_le_length hlast]
      exact ih hlast
    · rw [List.take_of_length_le (by simp; omega)]
      exact hdir

theorem entered_iff {passedOver : List Scalar} :
    Entered t passedOver top dirs ↔
      (∀ n ≤ dirs.length, t.get? (top ++ dirs.take n) = some .dir) ∧
        Corpus.isPassedOver passedOver dirs = false := by
  constructor
  · intro h
    refine ⟨h.get?, ?_⟩
    induction h with
    | top => rfl
    | into _ _ hpassed ih => simpa [Corpus.isPassedOver, hpassed] using ih
  · rintro ⟨hdirs, hpassed⟩
    induction dirs using List.reverseRecOn with
    | nil => exact .top (by simpa using hdirs 0 (by simp))
    | append_singleton dirs dir ih =>
      simp only [Corpus.isPassedOver, List.any_append, Bool.or_eq_false_iff] at hpassed
      refine .into (ih (fun n hn => ?_) hpassed.1) ?_ (by simpa using hpassed.2)
      · have hdir := hdirs n (by simp; omega)
        rwa [List.take_append_of_le_length hn] at hdir
      · have hdir := hdirs (dirs ++ [dir]).length le_rfl
        rwa [List.take_length] at hdir

theorem Entered.walk {passedOver : List Scalar} (h : Entered t passedOver top dirs)
    (hproper : ∀ name ∈ dirs, isProper name = true) (links : Nat) (rest : List String) :
    t.walk false links top (dirs ++ rest) = t.walk false links (top ++ dirs) rest ∨
      t.walk false links top (dirs ++ rest) = .error .nameTooLong := by
  induction h generalizing rest with
  | top => simp
  | @into dirs dir hdirs hdir _ ih =>
    have habove : t.get? (top ++ dirs) = some .dir := by
      simpa using hdirs.get? dirs.length le_rfl
    have hname := hproper dir (by simp)
    rw [List.append_assoc, List.singleton_append]
    rcases ih (fun name hmem => hproper name (by simp [hmem])) (dir :: rest) with hwalk | hwalk
    · by_cases hlong : maxName < dir.utf8ByteSize
      · exact .inr (hwalk.trans (walk_tooLong habove hname hlong))
      · rw [← List.append_assoc] at hdir ⊢
        exact .inl (hwalk.trans (walk_name habove hdir (by simp) hname (Nat.not_lt.mp hlong)))
    · exact .inr hwalk

end Tree

namespace Workspace

variable {w : Workspace} {root p : Path} {top : Place} {dirs : List String} {name : String}
  {passedOver : List Scalar} {node : Node}

theorem locate_append (hroot : w.locate root = .ok top) (htop : w.tree.get? top = some .dir) :
    ∃ links, ∀ names, w.locate (root / .ofNames names) = .error .nameTooLong ∨
      w.locate (root / .ofNames names) = w.tree.walk false links top names := by
  obtain ⟨-, left, hleads⟩ := leads_of_locateTo hroot
  refine ⟨left, fun names => ?_⟩
  by_cases hlong : Tree.maxPath < (root / Path.ofNames names).text.utf8ByteSize
  · exact .inl (by rw [locate, locateTo, if_pos hlong])
  · right
    rw [locate, locateTo, if_neg hlong, ← hleads.walk_append names (.inr ⟨_, htop⟩)]
    rfl

/-- What stands in a directory that is entered is where the path to it leads, if no name is too
long. -/
theorem stat_below (hroot : w.locate root = .ok top) (hdirs : w.tree.Entered passedOver top dirs)
    (hproper : ∀ n ∈ dirs ++ [name], Tree.isProper n = true)
    (hnode : w.tree.get? (top ++ (dirs ++ [name])) = some node)
    (hlink : ∀ target, node ≠ .link target) :
    w.stat (root / .ofNames (dirs ++ [name])) = .ok node ∨
      w.stat (root / .ofNames (dirs ++ [name])) = .error .nameTooLong := by
  have htop : w.tree.get? top = some .dir := by simpa using hdirs.get? 0 (Nat.zero_le _)
  have habove : w.tree.get? (top ++ dirs) = some .dir := by
    simpa using hdirs.get? dirs.length le_rfl
  obtain ⟨hproper', hname⟩ := List.forall_mem_append.mp hproper
  have hname := hname name List.mem_cons_self
  obtain ⟨links, hlocate⟩ := locate_append hroot htop
  rw [stat]
  rcases hlocate (dirs ++ [name]) with hlocate | hlocate
  · exact .inr (by rw [hlocate])
  · rcases hdirs.walk hproper' links [name] with hwalk | hwalk
    · by_cases hlong : Tree.maxName < name.utf8ByteSize
      · rw [hlocate, hwalk, Tree.walk_tooLong habove hname hlong]
        exact .inr rfl
      · rw [← List.append_assoc] at hnode
        rw [hlocate, hwalk, Tree.walk_name habove hnode hlink hname (Nat.not_lt.mp hlong),
          Tree.walk]
        simp only [hnode, true_or]
    · rw [hlocate, hwalk]
      exact .inr rfl

/-- A file stands at the place, or a link that leads to one; `p` is a path to the place. -/
def HoldsFile (w : Workspace) (p : Path) (place : Place) : Prop :=
  (∃ octets, w.tree.get? place = some (.file octets)) ∨
    (∃ target, w.tree.get? place = some (.link target)) ∧ ∃ octets, w.stat p = .ok (.file octets)

theorem HoldsFile.exists_node {place : Place} (h : w.HoldsFile p place) :
    ∃ node, w.tree.get? place = some node := by
  rcases h with ⟨octets, hfile⟩ | ⟨⟨target, hlink⟩, -⟩
  · exact ⟨_, hfile⟩
  · exact ⟨_, hlink⟩

theorem isFile?_iff_holdsFile (hroot : w.locate root = .ok top)
    (hdirs : w.tree.Entered passedOver top dirs)
    (hproper : ∀ n ∈ dirs ++ [name], Tree.isProper n = true)
    (hnul : (root / Path.ofNames (dirs ++ [name])).holdsNul = false)
    (hnode : w.tree.get? (top ++ (dirs ++ [name])) = some node)
    {b : Bool} (hb : w.isFile? (root / .ofNames (dirs ++ [name])) = .ok b) :
    b = true ↔ w.HoldsFile (root / .ofNames (dirs ++ [name])) (top ++ (dirs ++ [name])) := by
  -- a name that is too long would have stopped the search
  have hshort : w.stat (root / .ofNames (dirs ++ [name])) ≠ .error .nameTooLong := by
    intro hlong
    simp [isFile?, node?, hnul, hlong, Except.map] at hb
  have hstat := fun hlink => (stat_below hroot hdirs hproper hnode hlink).resolve_right hshort
  have hfile : b = true ↔
      ∃ octets, w.stat (root / .ofNames (dirs ++ [name])) = .ok (.file octets) := by
    rw [← Except.ok.injEq (ε := Fault), ← hb, isFile?_eq_ok_true]
    simp [hnul]
  rw [hfile, HoldsFile]
  cases node with
  | file octets => simp [hstat, hnode]
  | dir => simp [hstat, hnode]
  | link target => simp [hnode]

end Workspace

namespace Corpus

variable {w : Workspace} {pattern : Pattern} {passedOver : List Scalar} {root p : Path}
  {top : Place} {paths files : List Path}

/-- The files of a corpus: the root, if it is a file itself, or what stands in the directories that
are entered from there, with a name that the pattern takes. -/
inductive Belongs (w : Workspace) (pattern : Pattern) (passedOver : List Scalar) (root : Path) :
    Path → Prop
  | root : w.isFile? root = .ok true → pattern.search root.name = true →
      Belongs w pattern passedOver root root
  | below {top : Place} {dirs : List String} {name : String} : w.isDir root = true →
      w.locate root = .ok top → w.tree.Entered passedOver top dirs → pattern.search name = true →
      w.HoldsFile (root / .ofNames (dirs ++ [name])) (top ++ (dirs ++ [name])) →
      Belongs w pattern passedOver root (root / .ofNames (dirs ++ [name]))

theorem Belongs.exists? (h : Belongs w pattern passedOver root p) : w.exists? root = .ok true := by
  rw [Workspace.exists?_eq_ok_true]
  cases h with
  | root hfile _ =>
    obtain ⟨hnul, octets, hstat⟩ := Workspace.isFile?_eq_ok_true.mp hfile
    exact ⟨hnul, _, hstat⟩
  | below hdir _ _ _ _ =>
    obtain ⟨hnul, hstat⟩ := Workspace.isDir_eq_true.mp hdir
    exact ⟨hnul, .dir, hstat⟩

theorem mem_select (h : select w (.pattern pattern) passedOver root = .ok files) :
    p ∈ files ↔ ∃ names ∈ namesBelow w root, isWanted pattern passedOver root names = true ∧
      p = root / .ofNames names ∧ w.isFile? p = .ok true := by
  obtain ⟨-, rfl⟩ := filesAmong_eq_ok.mp h
  rw [List.mem_filter, List.mem_map, Workspace.isFile_eq_true]
  constructor
  · rintro ⟨⟨names, hnames, rfl⟩, hfile⟩
    obtain ⟨hbelow, hwanted⟩ := List.mem_filter.mp hnames
    exact ⟨names, hbelow, hwanted, rfl, hfile⟩
  · rintro ⟨names, hbelow, hwanted, rfl, hfile⟩
    exact ⟨⟨names, List.mem_filter.mpr ⟨hbelow, hwanted⟩, rfl⟩, hfile⟩

theorem isFile?_of_select (h : select w (.pattern pattern) passedOver root = .ok files)
    {names : List String} (hnames : names ∈ namesBelow w root)
    (hwanted : isWanted pattern passedOver root names = true) :
    ∃ isFile, w.isFile? (root / .ofNames names) = .ok isFile :=
  (filesAmong_eq_ok.mp h).1 _ (List.mem_map_of_mem (List.mem_filter.mpr ⟨hnames, hwanted⟩))

theorem isWanted_concat {dirs : List String} {name : String} :
    isWanted pattern passedOver root (dirs ++ [name]) = true ↔
      pattern.search name = true ∧ isPassedOver passedOver dirs = false := by
  have hname : (root / Path.ofNames (dirs ++ [name])).name = name := by
    show (root.names ++ (dirs ++ [name])).getLastD "" = name
    simp
  simp [isWanted, hname]

theorem namesBelow_dir (hroot : w.locate root = .ok top) (htop : w.tree.get? top = some .dir) :
    namesBelow w root = w.tree.below top := by
  simp [namesBelow, hroot, htop]

theorem isFile?_of_isWanted (hnamed : w.tree.ProperlyNamed) (hnul : root.holdsNul = false)
    (hroot : w.locate root = .ok top) (htop : w.tree.get? top = some .dir)
    (h : select w (.pattern pattern) passedOver root = .ok files) {dirs : List String}
    {name : String} (hmem : dirs ++ [name] ∈ namesBelow w root)
    (hwanted : isWanted pattern passedOver root (dirs ++ [name]) = true) :
    w.isFile? (root / .ofNames (dirs ++ [name])) = .ok true ↔
      w.HoldsFile (root / .ofNames (dirs ++ [name])) (top ++ (dirs ++ [name])) := by
  obtain ⟨isFile, hfile⟩ := isFile?_of_select h hmem hwanted
  rw [namesBelow_dir hroot htop, Tree.mem_below] at hmem
  obtain ⟨hdirs, node, hnode⟩ := hmem
  have hentered := Tree.entered_iff.mpr ⟨hdirs, (isWanted_concat.mp hwanted).2⟩
  have hproper := fun name hname => (hnamed.of_get? hnode name hname).1
  rw [← Workspace.isFile?_iff_holdsFile hroot hentered hproper (hnamed.holdsNul hnode hnul) hnode
    hfile, hfile, Except.ok.injEq]

theorem mem_select_dir (hnamed : w.tree.ProperlyNamed) (hdir : w.isDir root = true)
    (hroot : w.locate root = .ok top) (htop : w.tree.get? top = some .dir)
    (h : select w (.pattern pattern) passedOver root = .ok files) :
    p ∈ files ↔ Belongs w pattern passedOver root p := by
  have hnul := (Workspace.isDir_eq_true.mp hdir).1
  have hbelow := namesBelow_dir hroot htop
  rw [mem_select h]
  constructor
  · rintro ⟨names, hmem, hwanted, rfl, hfile⟩
    have hne : names ≠ [] := Tree.below_ne_nil (hbelow ▸ hmem)
    obtain ⟨dirs, name, rfl⟩ := names.eq_nil_or_concat'.resolve_left hne
    have hholds := (isFile?_of_isWanted hnamed hnul hroot htop h hmem hwanted).mp hfile
    obtain ⟨hsearch, hpassed⟩ := isWanted_concat.mp hwanted
    rw [hbelow, Tree.mem_below] at hmem
    exact .below hdir hroot (Tree.entered_iff.mpr ⟨hmem.1, hpassed⟩) hsearch hholds
  · intro hbelongs
    cases hbelongs with
    | root hfile _ =>
      -- a directory is no file
      obtain ⟨-, octets, hstat⟩ := Workspace.isFile?_eq_ok_true.mp hfile
      rw [(Workspace.isDir_eq_true.mp hdir).2] at hstat
      cases hstat
    | @below top' dirs name _ hroot' hdirs hsearch hholds =>
      rw [hroot] at hroot'
      cases hroot'
      obtain ⟨hall, hpassed⟩ := Tree.entered_iff.mp hdirs
      have hwanted : isWanted pattern passedOver root (dirs ++ [name]) = true :=
        isWanted_concat.mpr ⟨hsearch, hpassed⟩
      have hmem : dirs ++ [name] ∈ namesBelow w root := by
        rw [hbelow, Tree.mem_below]
        exact ⟨hall, hholds.exists_node⟩
      exact ⟨dirs ++ [name], hmem, hwanted, rfl,
        (isFile?_of_isWanted hnamed hnul hroot htop h hmem hwanted).mpr hholds⟩

theorem mem_select_file (hroot : w.locate root = .ok top) (htop : w.tree.get? top ≠ some .dir)
    (h : select w (.pattern pattern) passedOver root = .ok files) :
    p ∈ files ↔ Belongs w pattern passedOver root p := by
  have hbelow : namesBelow w root = [[]] := by simp [namesBelow, hroot, htop]
  have hself : root / Path.ofNames [] = root := by
    show (⟨root.anchor, root.names ++ []⟩ : Path) = root
    rw [List.append_nil]
  have hwanted : isWanted pattern passedOver root [] = pattern.search root.name := by
    simp [isWanted, hself, isPassedOver]
  rw [mem_select h, hbelow]
  simp only [List.mem_singleton, exists_eq_left, hself, hwanted]
  constructor
  · rintro ⟨hsearch, rfl, hfile⟩
    exact .root hfile hsearch
  · intro hbelongs
    cases hbelongs with
    | root hfile hsearch => exact ⟨hsearch, rfl, hfile⟩
    | @below top' dirs name _ hroot' hdirs _ _ =>
      rw [hroot] at hroot'
      cases hroot'
      exact absurd (by simpa using hdirs.get? 0 (Nat.zero_le _)) htop

/-- **Exactly the files of the corpus are found**, in strict order of their parts, and none if there
is nothing at the root. -/
theorem find_exact (w : Workspace) (pattern : Pattern) (passedOver : List Scalar) (root : Path)
    (paths : List Path) (wellFormed : w.tree.WellFormed) (named : w.tree.ProperlyNamed)
    (found : (find w (.pattern pattern) passedOver root).outcome = .ok paths) :
    paths.Pairwise Path.Before ∧ (∀ p, p ∈ paths ↔ Belongs w pattern passedOver root p) ∧
      (w.exists? root = .ok false → paths = []) := by
  refine ⟨find_pairwise wellFormed found, fun p => ?_, fun hnone => ?_⟩
  · rcases find_outcome found with ⟨hnone, rfl⟩ | ⟨hexists, files, hfiles, rfl⟩
    · refine iff_of_false List.not_mem_nil fun hbelongs => ?_
      rw [hbelongs.exists?] at hnone
      cases hnone
    · rw [Path.mem_sort]
      obtain ⟨hnul, node, hstat⟩ := Workspace.exists?_eq_ok_true.mp hexists
      obtain ⟨top, hroot, hnode⟩ := Workspace.stat_eq_ok.mp hstat
      by_cases htop : w.tree.get? top = some .dir
      · have hdir := Workspace.isDir_eq_true.mpr ⟨hnul, Workspace.stat_eq_ok.mpr ⟨top, hroot, htop⟩⟩
        exact mem_select_dir named hdir hroot htop hfiles
      · exact mem_select_file hroot htop hfiles
  · rcases find_outcome found with ⟨-, hnil⟩ | ⟨hexists, -⟩
    · exact hnil
    · rw [hnone] at hexists
      cases hexists

/-- A file, a link to it, and a directory that is passed over; the root and the file have names that
only directories below the root may not have. -/
theorem find_exact_link :
    let w : Workspace := ⟨⟨[(["r"], .dir), (["r", "a.feature"], .file []),
      (["r", "l.feature"], .link "a.feature"), (["r", "skip"], .dir),
      (["r", "skip", "b.feature"], .file [])]⟩, []⟩
    let passedOver : List Scalar := [.text "r", .text "a.feature", .text "skip"]
    let root := Path.ofNames ["r"]
    let paths : List Path := [.ofNames ["r", "a.feature"], .ofNames ["r", "l.feature"]]
    w.tree.WellFormed ∧ w.tree.ProperlyNamed ∧
      (find w (.pattern .dotFeature) passedOver root).outcome = .ok paths ∧
      paths.Pairwise Path.Before ∧ (∀ p, p ∈ paths ↔ Belongs w .dotFeature passedOver root p) ∧
      (w.exists? root = .ok false → paths = []) := by
  intro w passedOver root paths
  have hwellFormed : w.tree.WellFormed := by decide +kernel
  have hnamed : w.tree.ProperlyNamed := by decide +kernel
  have hdir : w.tree.get? ["r"] = some .dir := rfl
  have hfile : w.tree.get? (["r"] ++ ["a.feature"]) = some (.file []) := rfl
  have hlink : w.tree.get? (["r"] ++ ["l.feature"]) = some (.link "a.feature") := rfl
  have hr : ∀ links rest, w.tree.walk false links [] ("r" :: rest) =
      w.tree.walk false links ["r"] rest :=
    fun links rest => Tree.walk_name rfl hdir (by simp) (by decide) (by decide)
  have ha : ∀ links, w.tree.walk false links ["r"] ["a.feature"] = .ok ["r", "a.feature"] := by
    intro links
    rw [Tree.walk_name hdir hfile (by simp) (by decide) (by decide), Tree.walk]
    rfl
  have hl : w.tree.walk false Tree.maxLinks ["r"] ["l.feature"] = .ok ["r", "a.feature"] := by
    have htarget : Tree.targetNames "a.feature" ++ [] = ["a.feature"] := by decide +kernel
    have hstart : Tree.targetStart ["r"] "a.feature" = ["r"] := by decide +kernel
    have hstep : w.tree.walk false (39 + 1) ["r"] ["l.feature"] = _ :=
      Tree.walk_link hdir (by decide) (by decide) hlink
    rw [htarget, hstart, ha] at hstep
    exact hstep
  have hlocate : w.locate root = .ok ["r"] := by
    rw [Workspace.locate, Workspace.locateTo, if_neg (by decide +kernel)]
    show w.tree.walk false Tree.maxLinks [] ["r"] = .ok ["r"]
    rw [hr, Tree.walk]
  have hexists : w.exists? root = .ok true :=
    Workspace.exists?_eq_ok_true.mpr ⟨by decide, .dir, Workspace.stat_eq_ok.mpr ⟨_, hlocate, rfl⟩⟩
  have hwanted : (namesBelow w root).filter (isWanted .dotFeature passedOver root) =
      [["a.feature"], ["l.feature"]] := by
    rw [namesBelow, hlocate]
    decide +kernel
  have hfiles : ∀ names ∈ [["a.feature"], ["l.feature"]],
      w.isFile? (root / .ofNames names) = .ok true := by
    intro names hnames
    rcases List.mem_cons.mp hnames with rfl | hnames
    · exact Workspace.isFile?_of_stat (by decide)
        (Workspace.stat_of_walk (by decide +kernel) ((hr _ _).trans (ha _)) rfl)
    · rw [List.mem_singleton.mp hnames]
      exact Workspace.isFile?_of_stat (by decide)
        (Workspace.stat_of_walk (by decide +kernel) ((hr _ _).trans hl) rfl)
  have hfound : (find w (.pattern .dotFeature) passedOver root).outcome = .ok paths := by
    rw [find_of_wanted hexists hwanted hfiles]
    exact congrArg Except.ok (List.mergeSort_of_pairwise (by decide +kernel))
  exact ⟨hwellFormed, hnamed, hfound,
    find_exact w .dotFeature passedOver root paths hwellFormed hnamed hfound⟩

end Corpus

end FeatureLint
