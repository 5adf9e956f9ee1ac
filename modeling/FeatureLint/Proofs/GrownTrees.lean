import FeatureLint.Proofs.PlainTrees

/-!
# A tree after a file was written

A run may write a file, and directories above it.  `Workspace.Grown` says what that does to a tree
without links: at one place there is now a file, and elsewhere there is what there was, or a
directory where nothing was.  Much that was known of the tree is still so.

* `Grown.stat`: what a path leads to, if it was a file and is not the one that was written, is the
  same, even if the path leads up on its way.
* `Grown.isFile?_iff`: no other files have come.
* `Plain.writeDeep_again`: **a file that is written again changes nothing.**
-/

namespace FeatureLint

namespace Tree

theorem insert_insert (place : Place) (node : Node) (entries : List (Place × Node)) :
    insert place node (insert place node entries) = insert place node entries := by
  induction entries with
  | nil => simp [insert]
  | cons entry entries ih =>
    obtain ⟨p, n⟩ := entry
    by_cases hp : p = place
    · simp [insert, hp]
    · simp [insert, hp, ih]

end Tree

namespace Workspace

variable {w w' : Workspace} {p : Path} {f q : Place} {octets : List UInt8}

/-! ### More directories -/

/-- The directories that were made are all that is new. -/
theorem makeDirs_grows (w : Workspace) (p : Path) :
    (w.makeDirs p).1.cwd = w.cwd ∧ ∀ q, (w.makeDirs p).1.tree.get? q = w.tree.get? q ∨
      w.tree.get? q = none ∧ (w.makeDirs p).1.tree.get? q = some .dir := by
  refine makeDirs_keeps (P := fun w' => w'.cwd = w.cwd ∧ ∀ q, w'.tree.get? q = w.tree.get? q ∨
    w.tree.get? q = none ∧ w'.tree.get? q = some .dir) ?_ ⟨rfl, fun _ => .inl rfl⟩
  rintro above made r ⟨hcwd, hgrows⟩ - hmade
  obtain ⟨last, dir, -, -, -, hfree, rfl⟩ := makeDir_eq_ok hmade
  refine ⟨hcwd, fun q => ?_⟩
  by_cases hq : q = dir ++ [last]
  · subst hq
    have hnone : w.tree.get? (dir ++ [last]) = none := by
      rcases hgrows (dir ++ [last]) with hsame | ⟨hnone, -⟩
      · exact hsame.symm.trans hfree
      · exact hnone
    exact .inr ⟨hnone, Tree.get?_put_self (by simp)⟩
  · rw [Tree.get?_put_of_ne hq]
    exact hgrows q

theorem Plain.makeDir_of_get? (hw : w.Plain) (hp : p.IsStraight) (hshort : p.IsShort) {node : Node}
    (hnode : w.tree.get? (w.placeOf p) = some node) : w.makeDir p = .error .exists := by
  rw [Workspace.makeDir, if_neg (Nat.not_lt.mpr hshort.1)]
  cases hlast : p.names.getLast? with
  | none => rfl
  | some last =>
    have hmem := List.mem_of_getLast? hlast
    have hne := List.ne_nil_of_mem hmem
    have hparent := hw.get?_parent hnode
    have hplace : w.placeOf p.parent ++ [last] = w.placeOf p := by
      have hnames : p.names.dropLast ++ [last] = p.names := List.dropLast_append_getLast? last hlast
      show w.start p ++ p.names.dropLast ++ [last] = w.start p ++ p.names
      rw [List.append_assoc, hnames]
    have hsize : ¬Tree.maxName < last.utf8ByteSize := Nat.not_lt.mpr (hshort.2 last hmem)
    simp only [hw.locate_of_get? hp.parent (hshort.parent hp hne) hparent, hparent, hplace, hnode,
      if_neg (Tree.isProper_iff.mp (hp last hmem)).2.1, if_neg hsize]

theorem makeDirs_of_makeDir (hnul : p.holdsNul = false) (hmade : w.makeDir p = .ok w') :
    w.makeDirs p = (w', none) := by
  obtain ⟨anchor, names⟩ := p
  obtain ⟨up, rfl⟩ : ∃ up, names = List.reverse up := ⟨names.reverse, names.reverse_reverse.symm⟩
  rw [makeDirs, hnul, if_neg Bool.false_ne_true, List.reverse_reverse]
  cases up <;> simp only [makeDirsUp, hmade, List.reverse_nil] at *

theorem makeDirs_of_error {cause : SystemCause} (hnul : p.holdsNul = false)
    (hmade : w.makeDir p = .error cause) (hcause : cause ≠ .missing) :
    w.makeDirs p = (w, w.unlessDir cause p) := by
  obtain ⟨anchor, names⟩ := p
  obtain ⟨up, rfl⟩ : ∃ up, names = List.reverse up := ⟨names.reverse, names.reverse_reverse.symm⟩
  rw [makeDirs, hnul, if_neg Bool.false_ne_true, List.reverse_reverse]
  cases up with
  | nil =>
    rw [List.reverse_nil] at hmade
    simp only [makeDirsUp, hmade, List.reverse_nil]
  | cons name up => cases cause <;> simp_all [makeDirsUp]

theorem Plain.makeDirs_of_isDir (hw : w.Plain) (hp : p.IsStraight) (h : w.isDir p = true) :
    w.makeDirs p = (w, none) := by
  obtain ⟨hnul, hshort, hnode⟩ := (hw.isDir_iff hp).mp h
  rw [makeDirs_of_error hnul (hw.makeDir_of_get? hp hshort hnode) (by decide), unlessDir, if_pos h]

/-! ### One more file -/

theorem isFile?_iff_read : w.isFile? p = .ok true ↔ ∃ octets, w.read p = .ok octets := by
  simp only [isFile?_eq_ok_true, read_eq_ok, exists_and_left]

/-- `w'` is the workspace `w`, without links, after a file was written at the place `f`: elsewhere
nothing has changed, but there may be directories where nothing was. -/
structure Grown (f : Place) (w w' : Workspace) : Prop where
  plain : w.Plain
  plain' : w'.Plain
  cwd : w'.cwd = w.cwd
  noDir : w.tree.get? f ≠ some .dir
  file : ∃ octets, w'.tree.get? f = some (.file octets)
  others : ∀ q ≠ f, w'.tree.get? q = w.tree.get? q ∨
    w.tree.get? q = none ∧ w'.tree.get? q = some .dir

theorem placeOf_congr (h : w'.cwd = w.cwd) (p : Path) : w'.placeOf p = w.placeOf p := by
  rw [placeOf, placeOf, start, start, h]

theorem Plain.grown_writeDeep (hw : w.Plain) (hp : p.Spelled) (hup : ".." ∉ p.names)
    (h : (w.writeDeep p octets).2 = none) :
    Grown (w.placeOf p) w (w.writeDeep p octets).1 := by
  obtain ⟨-, -, above, hmade, -, -, hdir, hplain, hwrite⟩ := hw.writeDeep_eq hp hup h
  obtain ⟨hcwd, hgrows⟩ := makeDirs_grows w p.parent
  rw [hmade] at hcwd hgrows
  rw [placeOf_congr hcwd] at hwrite hdir
  rw [hwrite] at hplain ⊢
  refine ⟨hw, hplain, hcwd, fun hbefore => ?_,
    ⟨octets, Tree.get?_put_self (Tree.ne_nil_of_get? hdir)⟩, fun q hq => ?_⟩
  · rcases hgrows (w.placeOf p) with hsame | ⟨hnone, -⟩
    · exact hdir (hsame.trans hbefore)
    · simp [hnone] at hbefore
  · rw [Tree.get?_put_of_ne hq]
    exact hgrows q

/-- **A file that is written again changes nothing.** -/
theorem Plain.writeDeep_again (hw : w.Plain) (hp : p.Spelled) (hup : ".." ∉ p.names)
    (h : (w.writeDeep p octets).2 = none) :
    (w.writeDeep p octets).1.writeDeep p octets = ((w.writeDeep p octets).1, none) := by
  have hstraight := hp.isStraight hup
  obtain ⟨hnul, hshort, above, hmade, habove, hparent, hdir, hplain, hwrite⟩ :=
    hw.writeDeep_eq hp hup h
  rw [hwrite] at hplain ⊢
  set written : Workspace :=
    { above with tree := above.tree.put (above.placeOf p) (.file octets) } with hwritten
  have hfile : written.tree.get? (written.placeOf p) = some (.file octets) :=
    Tree.get?_put_self (Tree.ne_nil_of_get? hdir)
  have hisDir : written.isDir p.parent = true := by
    have hne := habove.names_ne_nil hdir
    refine (hplain.isDir_iff hstraight.parent).mpr ⟨?_, hshort.parent hstraight hne, ?_⟩
    · exact Path.holdsNul_parent hnul
    · exact Tree.get?_put_of_get? hparent hdir
  have hlocate : written.locateTo true p = .ok (written.placeOf p) :=
    (hplain.locateTo_eq_ok hstraight).mpr ⟨hshort, hplain.get?_parent hfile, rfl⟩
  have hput : written.tree.put (written.placeOf p) (.file octets) = written.tree :=
    congrArg Tree.mk (Tree.insert_insert _ _ _)
  rw [writeDeep, hplain.makeDirs_of_isDir hstraight.parent hisDir]
  simp only [write, hnul, hlocate, hfile, hput]
  rfl

namespace Grown

variable {node : Node} (h : Grown f w w')

include h

/-! ### What is still there -/

theorem get?_dir (hq : w.tree.get? q = some .dir) : w'.tree.get? q = some .dir := by
  have hne : q ≠ f := fun he => h.noDir (he ▸ hq)
  rcases h.others q hne with hsame | ⟨-, hdir⟩
  · exact hsame.trans hq
  · exact hdir

theorem get?_file_iff (hq : q ≠ f) :
    w'.tree.get? q = some (.file octets) ↔ w.tree.get? q = some (.file octets) := by
  rcases h.others q hq with hsame | ⟨hnone, hdir⟩
  · rw [hsame]
  · simp [hnone, hdir]

theorem leads {links left : Nat} {here place : Place} {names : List String}
    (hleads : w.tree.Leads links here names left place) (hnode : w.tree.get? place = some node) :
    w'.tree.Leads links here names left place := by
  induction hleads with
  | here => exact .here
  | self hhere hname _ ih => exact .self (h.get?_dir hhere) hname (ih hnode)
  | up hhere _ ih => exact .up (h.get?_dir hhere) (ih hnode)
  | link _ _ _ hlink _ _ => exact absurd hlink (h.plain.unlinked.get? _ _)
  | @name _ _ here _ name _ node' hhere hname hshort hthere hlink _ ih =>
    by_cases hf : here ++ [name] = f
    · obtain ⟨octets, hfile⟩ := h.file
      exact .name (h.get?_dir hhere) hname hshort (hf ▸ hfile) (by simp) (ih hnode)
    · refine .name (h.get?_dir hhere) hname hshort ?_ hlink (ih hnode)
      rcases h.others _ hf with hsame | ⟨hnone, -⟩
      · exact hsame.trans hthere
      · simp [hnone] at hthere
  | free _ _ _ hfree => simp [hfree] at hnode

/-- **A file that was there is where it was**, unless it is the one that was written. -/
theorem stat (hstat : w.stat p = .ok (.file octets)) (hf : w'.locate p ≠ .ok f) :
    w'.stat p = .ok (.file octets) := by
  obtain ⟨place, hplace, hnode⟩ := stat_eq_ok.mp hstat
  obtain ⟨hshort, left, hleads⟩ := leads_of_locateTo hplace
  have hstart : w'.start p = w.start p := by rw [start, start, h.cwd]
  have hlocate : w'.locate p = .ok place := by
    rw [locate, locateTo, if_neg (Nat.not_lt.mpr hshort), hstart]
    exact (h.leads hleads hnode).walk
  have hne : place ≠ f := fun he => hf (he ▸ hlocate)
  exact stat_eq_ok.mpr ⟨place, hlocate, (h.get?_file_iff hne).mpr hnode⟩

theorem read (hread : w.read p = .ok octets) (hf : w'.locate p ≠ .ok f) :
    w'.read p = .ok octets := by
  obtain ⟨hnul, hstat⟩ := read_eq_ok.mp hread
  exact read_eq_ok.mpr ⟨hnul, h.stat hstat hf⟩

/-! ### What has not come -/

theorem locate_new (hp : p.IsStraight) (hshort : p.IsShort) (hplace : w.placeOf p = f) :
    w'.locate p = .ok f := by
  obtain ⟨octets, hfile⟩ := h.file
  rw [← hplace, ← placeOf_congr h.cwd] at hfile ⊢
  exact h.plain'.locate_of_get? hp hshort hfile

/-- **No other files have come.** -/
theorem isFile?_iff (hp : p.IsStraight) (hne : w.placeOf p ≠ f) :
    w'.isFile? p = .ok true ↔ w.isFile? p = .ok true := by
  rw [h.plain'.isFile?_iff hp, h.plain.isFile?_iff hp, placeOf_congr h.cwd]
  simp only [h.get?_file_iff hne]

theorem isFile?_eq_ok (hp : p.IsStraight) (hnul : p.holdsNul = false)
    (hdir : w.tree.get? (w.placeOf p.parent) = some .dir) (hf : w'.locate p ≠ .ok f) {b : Bool}
    (hb : w.isFile? p = .ok b) : w'.isFile? p = .ok b := by
  obtain ⟨hshort, hfile⟩ := (h.plain.isFile?_eq_ok hp hnul hdir).mp hb
  have hne : w.placeOf p ≠ f := fun hplace => hf (h.locate_new hp hshort hplace)
  have hdir' : w'.tree.get? (w'.placeOf p.parent) = some .dir := by
    rw [placeOf_congr h.cwd]
    exact h.get?_dir hdir
  refine (h.plain'.isFile?_eq_ok hp hnul hdir').mpr ⟨hshort, ?_⟩
  rw [placeOf_congr h.cwd]
  simpa only [h.get?_file_iff hne] using hfile

end Grown

theorem Plain.locate_writeDeep (hw : w.Plain) (hp : p.Spelled) (hup : ".." ∉ p.names)
    (h : (w.writeDeep p octets).2 = none) :
    (w.writeDeep p octets).1.locate p = .ok (w.placeOf p) := by
  obtain ⟨-, hshort, -⟩ := hw.writeDeep_eq hp hup h
  exact (hw.grown_writeDeep hp hup h).locate_new (hp.isStraight hup) hshort rfl

theorem Plain.writeDeep_newDir (hw : w.Plain) {dir name : String}
    (hnames : Tree.AreProper [dir, name]) (hshort : (Path.ofNames [dir, name]).IsShort)
    (hfree : w.tree.get? (w.cwd ++ [dir]) = none) :
    w.writeDeep (.ofNames [dir, name]) octets =
      ({ w with
          tree := (w.tree.put (w.cwd ++ [dir]) .dir).put (w.cwd ++ [dir, name]) (.file octets) },
        none) := by
  have hdir := hnames dir (by simp)
  have hnul : (Path.ofNames [dir, name]).holdsNul = false := by
    simpa [Path.ofNames, Path.holdsNul] using ⟨hdir.2.1, (hnames name (by simp)).2.1⟩
  have hstraight : (Path.ofNames [dir, name]).IsStraight := fun n hn => (hnames n hn).1
  have hsizes := hshort.parent hstraight (List.cons_ne_nil _ _)
  set above : Workspace := { w with tree := w.tree.put (w.cwd ++ [dir]) .dir }
  have hmade : w.makeDir (.ofNames [dir]) = .ok above := by
    have hlast : (Path.ofNames [dir]).names.getLast? = some dir := rfl
    have hlocate : w.locate (Path.ofNames [dir]).parent = .ok w.cwd := locate_here
    have hlong : ¬ Tree.maxPath < (Path.ofNames [dir]).text.utf8ByteSize :=
      Nat.not_lt.mpr hsizes.1
    rw [Workspace.makeDir, if_neg hlong]
    simp only [hlast, hlocate, hw.cwd, hfree, if_neg (Tree.isProper_iff.mp hdir.1).2.1,
      if_neg (Nat.not_lt.mpr (hsizes.2 dir (List.mem_singleton_self dir)))]
    rfl
  have hone : Tree.AreProper (Path.ofNames [dir]).names :=
    hnames.subset (List.dropLast_subset [dir, name])
  have hplain : above.Plain := hw.makeDir hone hmade
  have hparent : above.tree.get? (w.cwd ++ [dir]) = some .dir := Tree.get?_put_self (by simp)
  have hplace : above.locateTo true (.ofNames [dir, name]) = .ok (w.cwd ++ [dir, name]) :=
    (hplain.locateTo_eq_ok hstraight).mpr ⟨hshort, hparent, rfl⟩
  have hnone : w.tree.get? (w.cwd ++ [dir, name]) = none := by
    refine Option.eq_none_iff_forall_ne_some.mpr fun node hnode => ?_
    have hsplit : w.cwd ++ [dir, name] = w.cwd ++ [dir] ++ [name] := by simp
    rw [hsplit] at hnode
    simp [hw.rooted.get?_of_append hnode (by simp)] at hfree
  have hnone' : above.tree.get? (w.cwd ++ [dir, name]) = none := by
    rw [Tree.get?_put_of_ne (by simp), hnone]
  have hdirs : w.makeDirs (Path.ofNames [dir, name]).parent = (above, none) := by
    have hup : w.makeDir ⟨.current, [dir].reverse⟩ = .ok above := hmade
    rw [Workspace.makeDirs, Path.holdsNul_parent hnul]
    show w.makeDirsUp .current [dir] = (above, none)
    simp only [makeDirsUp, hup]
  rw [writeDeep, hdirs]
  simp only [write, hnul, hplace, hnone']
  rfl

end Workspace

end FeatureLint
