import FeatureLint.Proofs.GrownTrees
import FeatureLint.Settings.Project

/-!
# The nearest project file

Which file the settings are read from is told here without the search (`Project.Uses`): the file
that is named, or else the project file in the nearest directory that has one, from the current
directory upwards.  What is no file is passed over, and so it may be that there is none.

The search looks at one directory after the other, the longest path first (`searched_pairwise`), and
stops at the first that has a file.  So it comes to the file that is used (`choose_eq_ok`), unless a
look-up on the way is refused: the file system does so where a name is too long, and a link can lead
to such a name (`Workspace.Refuses`).
-/

namespace FeatureLint

/-- The file system refuses to look up a path: a name on the way is too long. -/
def Workspace.Refuses (w : Workspace) (p : Path) : Prop :=
  p.holdsNul = false ∧ w.stat p = .error .nameTooLong

theorem Workspace.isFile?_eq_error {w : Workspace} {p : Path} {fault : Fault} :
    w.isFile? p = .error fault ↔ w.Refuses p ∧ fault = .system .nameTooLong p := by
  rw [isFile?, node?, Refuses]
  by_cases hnul : p.holdsNul = true
  · simp [hnul, Except.map]
  · rw [if_neg hnul, eq_false_of_ne_true hnul]
    cases w.stat p with
    | ok node => simp [Except.map]
    | error cause => cases cause <;> simp [Except.map, eq_comm]

theorem Workspace.isFile?_eq_ok_false {w : Workspace} {p : Path} :
    w.isFile? p = .ok false ↔ (∀ octets, w.read p ≠ .ok octets) ∧ ¬ w.Refuses p := by
  have hfile := isFile?_iff_read (w := w) (p := p)
  have hfault : (∃ fault, w.isFile? p = .error fault) ↔ w.Refuses p := by
    simp [isFile?_eq_error]
  rw [← hfault, ← not_exists, ← hfile]
  cases w.isFile? p with
  | error fault => simp
  | ok b => cases b <;> simp

namespace Project

def fileIn (dir : Place) : Path := ⟨.root, dir⟩ / fileName

/-- **The file that settings are read from**, if there is one. -/
inductive Uses (w : Workspace) : Option Path → Option Path → Prop
  | named {file : Path} {octets : List UInt8} : w.read file = .ok octets →
      Uses w (some file) (some file)
  /-- The file in the nearest directory that has one, of the current directory and those above. -/
  | nearest {dir : Place} {octets : List UInt8} : dir <+: w.cwd → w.read (fileIn dir) = .ok octets →
      (∀ nearer octets', nearer <+: w.cwd → dir.length < nearer.length →
        w.read (fileIn nearer) ≠ .ok octets') →
      Uses w none (some (fileIn dir))
  | nowhere : (∀ dir octets, dir <+: w.cwd → w.read (fileIn dir) ≠ .ok octets) → Uses w none none

/-- No look-up is refused before the file is found. -/
def Unrefused (w : Workspace) (named file? : Option Path) : Prop :=
  named = none → ∀ dir, dir <+: w.cwd →
    (∀ found, file? = some (fileIn found) → found.length < dir.length) → ¬ w.Refuses (fileIn dir)

variable {w : Workspace} {dirs : List Path} {named file? : Option Path} {file : Path}

theorem fileIn_injective {dir dir' : Place} (h : fileIn dir = fileIn dir') : dir = dir' :=
  List.append_cancel_right (congrArg Path.names h)

/-! ### The search -/

theorem mem_searched {p : Path} : p ∈ searched w ↔ ∃ dir, dir <+: w.cwd ∧ p = ⟨.root, dir⟩ := by
  rw [searched, List.mem_map]
  constructor
  · rintro ⟨n, -, rfl⟩
    exact ⟨_, List.take_prefix _ _, rfl⟩
  · rintro ⟨dir, hdir, rfl⟩
    have hlength := hdir.length_le
    refine ⟨w.cwd.length - dir.length, List.mem_range.mpr (by omega), ?_⟩
    rw [Nat.sub_sub_self hlength, ← List.prefix_iff_eq_take.mp hdir]

theorem searched_root (hcwd : w.cwd = []) : searched w = [⟨.root, []⟩] := by
  simp [searched, hcwd]

theorem searched_pairwise (w : Workspace) :
    (searched w).Pairwise fun p q => q.names.length < p.names.length := by
  refine List.pairwise_map.mpr ((List.pairwise_lt_range).imp_of_mem fun hm hn hlt => ?_)
  have hm' := List.mem_range.mp hm
  have hn' := List.mem_range.mp hn
  simp only [List.length_take]
  omega

theorem mem_before_iff {before after : List Path} {dir : Place}
    (h : searched w = before ++ ⟨.root, dir⟩ :: after) {p : Path} :
    p ∈ before ↔ ∃ nearer, nearer <+: w.cwd ∧ dir.length < nearer.length ∧ p = ⟨.root, nearer⟩ := by
  have hpairwise := searched_pairwise w
  rw [h, List.pairwise_append, List.pairwise_cons] at hpairwise
  obtain ⟨-, ⟨hafter, -⟩, hbefore⟩ := hpairwise
  constructor
  · intro hp
    obtain ⟨nearer, hnearer, rfl⟩ := mem_searched.mp (h ▸ List.mem_append_left _ hp)
    exact ⟨nearer, hnearer, hbefore _ hp _ List.mem_cons_self, rfl⟩
  · rintro ⟨nearer, hnearer, hlonger, rfl⟩
    have hmem : (⟨.root, nearer⟩ : Path) ∈ before ++ ⟨.root, dir⟩ :: after :=
      h ▸ mem_searched.mpr ⟨nearer, hnearer, rfl⟩
    rcases List.mem_append.mp hmem with hp | hp
    · exact hp
    · rcases List.mem_cons.mp hp with hdir | hp
      · obtain rfl : nearer = dir := congrArg Path.names hdir
        exact absurd hlonger (Nat.lt_irrefl _)
      · exact absurd (hafter _ hp) (Nat.lt_asymm hlonger)

theorem firstIn_eq_some : firstIn w dirs = .ok (some file) ↔
    ∃ before dir after, dirs = before ++ dir :: after ∧ file = dir / fileName ∧
      w.isFile? (dir / fileName) = .ok true ∧
      ∀ d ∈ before, w.isFile? (d / fileName) = .ok false := by
  induction dirs with
  | nil => simp [firstIn]
  | cons d rest ih =>
    rw [firstIn]
    constructor
    · intro h
      split at h
      · cases h
      · rename_i hfile
        cases h
        exact ⟨[], d, rest, rfl, rfl, hfile, fun _ h => absurd h List.not_mem_nil⟩
      · rename_i hfile
        obtain ⟨before, dir, after, rfl, hdir, hfile', hbefore⟩ := ih.mp h
        exact ⟨d :: before, dir, after, rfl, hdir, hfile',
          List.forall_mem_cons.mpr ⟨hfile, hbefore⟩⟩
    · rintro ⟨before, dir, after, hdirs, hdir, hfile, hbefore⟩
      cases before with
      | nil =>
        obtain ⟨rfl, rfl⟩ := List.cons.inj hdirs
        simp only [hfile, hdir]
      | cons d' before =>
        obtain ⟨rfl, hrest⟩ := List.cons.inj hdirs
        obtain ⟨hd, hbefore⟩ := List.forall_mem_cons.mp hbefore
        simp only [hd]
        exact ih.mpr ⟨before, dir, after, hrest, hdir, hfile, hbefore⟩

theorem firstIn_eq_none :
    firstIn w dirs = .ok none ↔ ∀ dir ∈ dirs, w.isFile? (dir / fileName) = .ok false := by
  induction dirs with
  | nil => simp [firstIn]
  | cons d rest ih =>
    rw [firstIn, List.forall_mem_cons, ← ih]
    split <;> simp_all

/-! ### The file that is used -/

theorem find?_eq_some_iff : find? w = .ok (some file) ↔
    ∃ dir, file = fileIn dir ∧ dir <+: w.cwd ∧ w.isFile? (fileIn dir) = .ok true ∧
      ∀ nearer, nearer <+: w.cwd → dir.length < nearer.length →
        w.isFile? (fileIn nearer) = .ok false := by
  rw [find?, firstIn_eq_some]
  constructor
  · rintro ⟨before, p, after, hsearched, rfl, hfile, hbefore⟩
    obtain ⟨dir, hdir, rfl⟩ := mem_searched.mp (hsearched ▸ by simp : p ∈ searched w)
    refine ⟨dir, rfl, hdir, hfile, fun nearer hnearer hlonger => hbefore ⟨.root, nearer⟩ ?_⟩
    exact (mem_before_iff hsearched).mpr ⟨nearer, hnearer, hlonger, rfl⟩
  · rintro ⟨dir, rfl, hdir, hfile, hnearer⟩
    obtain ⟨before, after, hsearched⟩ :=
      List.append_of_mem (mem_searched.mpr ⟨dir, hdir, rfl⟩ : ⟨.root, dir⟩ ∈ searched w)
    refine ⟨before, _, after, hsearched, rfl, hfile, fun p hp => ?_⟩
    obtain ⟨nearer, hmem, hlonger, rfl⟩ := (mem_before_iff hsearched).mp hp
    exact hnearer nearer hmem hlonger

theorem find?_eq_none_iff :
    find? w = .ok none ↔ ∀ dir, dir <+: w.cwd → w.isFile? (fileIn dir) = .ok false := by
  rw [find?, firstIn_eq_none]
  constructor
  · exact fun h dir hdir => h _ (mem_searched.mpr ⟨dir, hdir, rfl⟩)
  · intro h p hp
    obtain ⟨dir, hdir, rfl⟩ := mem_searched.mp hp
    exact h dir hdir

/-- **The search comes to the file that is used**, unless a look-up before it is refused. -/
theorem choose_eq_ok :
    choose w named = .ok file? ↔ Uses w named file? ∧ Unrefused w named file? := by
  cases named with
  | some file =>
    have hchoose : choose w (some file) = .ok file? ↔
        w.isFile? file = .ok true ∧ file? = some file := by
      rw [choose]
      cases w.isFile? file with
      | error fault => simp
      | ok b => cases b <;> simp [eq_comm]
    rw [hchoose, Workspace.isFile?_iff_read]
    constructor
    · rintro ⟨⟨octets, hread⟩, rfl⟩
      exact ⟨.named hread, fun h => absurd h (Option.some_ne_none file)⟩
    · rintro ⟨huses, -⟩
      cases huses with
      | named hread => exact ⟨⟨_, hread⟩, rfl⟩
  | none =>
    show find? w = .ok file? ↔ _
    cases file? with
    | none =>
      rw [find?_eq_none_iff]
      simp only [Workspace.isFile?_eq_ok_false]
      constructor
      · intro h
        exact ⟨.nowhere fun dir octets hdir => (h dir hdir).1 octets,
          fun _ dir hdir _ => (h dir hdir).2⟩
      · rintro ⟨huses, hrefused⟩ dir hdir
        cases huses with
        | nowhere hnone =>
          exact ⟨fun octets => hnone dir octets hdir,
            hrefused rfl dir hdir fun _ h => absurd h.symm (Option.some_ne_none _)⟩
    | some file =>
      rw [find?_eq_some_iff]
      simp only [Workspace.isFile?_eq_ok_false, Workspace.isFile?_iff_read]
      constructor
      · rintro ⟨dir, rfl, hdir, ⟨octets, hread⟩, hnearer⟩
        refine ⟨.nearest hdir hread fun nearer octets' hmem hlonger =>
          (hnearer nearer hmem hlonger).1 octets', fun _ nearer hmem hlonger => ?_⟩
        exact (hnearer nearer hmem (hlonger dir rfl)).2
      · rintro ⟨huses, hrefused⟩
        cases huses with
        | nearest hdir hread hnearer =>
          refine ⟨_, rfl, hdir, ⟨_, hread⟩, fun nearer hmem hlonger => ⟨fun octets' =>
            hnearer nearer octets' hmem hlonger, hrefused rfl nearer hmem fun found hfound => ?_⟩⟩
          rwa [← fileIn_injective (Option.some.inj hfound)]

theorem Uses.unique {other : Option Path} (h : Uses w named file?) (h' : Uses w named other) :
    file? = other := by
  cases h with
  | named hread =>
    cases h' with
    | named => rfl
  | nowhere hnone =>
    cases h' with
    | nowhere => rfl
    | nearest hdir hread => exact absurd hread (hnone _ _ hdir)
  | nearest hdir hread hnearer =>
    cases h' with
    | nowhere hnone => exact absurd hread (hnone _ _ hdir)
    | nearest hdir' hread' hnearer' =>
      -- neither of two directories is nearer, so they are one
      have hle := Nat.le_of_not_lt fun hlt => hnearer _ _ hdir' hlt hread'
      have hge := Nat.le_of_not_lt fun hlt => hnearer' _ _ hdir hlt hread
      rw [List.prefix_iff_eq_take.mp hdir, List.prefix_iff_eq_take.mp hdir',
        Nat.le_antisymm hge hle]

theorem exists_uses (w : Workspace) : ∃ file?, Uses w none file? := by
  by_cases h : ∃ n dir octets, dir <+: w.cwd ∧ w.read (fileIn dir) = .ok octets ∧
      w.cwd.length - dir.length = n
  · classical
    obtain ⟨dir, octets, hdir, hread, hn⟩ := Nat.find_spec h
    refine ⟨_, .nearest hdir hread fun nearer octets' hmem hlonger hread' => ?_⟩
    refine Nat.find_min h ?_ ⟨nearer, octets', hmem, hread', rfl⟩
    have := hmem.length_le
    omega
  · exact ⟨none, .nowhere fun dir octets hdir hread => h ⟨_, dir, octets, hdir, hread, rfl⟩⟩

end Project

end FeatureLint
