import FeatureLint.Tree.Resolve

/-!
# Walks through a tree

`Tree.walk` takes a path name by name and stops at the first thing that is wrong with it.  A walk that
comes to its end is told by `Tree.Leads`, one constructor for each kind of step: a name may say where
one is already or lead up, it may be that of a link or of something else, and the last one may be
free.  What is to be shown of walks is shown once for each of these steps.

* `walk_self`, `walk_up`, `walk_link`, `walk_name`, `walk_free`: what the function does at a step.
* `leads_of_walk`: every walk that comes to its end is one of such steps.
* `Leads.walk_append`: **a walk goes on from where it has led**, with the links that are left.
-/

namespace FeatureLint

namespace Tree

variable {t : Tree} {links : Nat} {here place : Place} {name : String} {rest names : List String}

/-! ### One step -/

theorem isProper_iff : isProper name = true ↔ name ≠ "." ∧ name ≠ ".." ∧ name ≠ slash := by
  simp [isProper, and_assoc]

theorem walk_self (hhere : t.get? here = some .dir) (hname : name = "." ∨ name = slash) :
    t.walk false links here (name :: rest) = t.walk false links here rest := by
  rw [walk, hhere]
  simp [hname]

theorem walk_up (hhere : t.get? here = some .dir) :
    t.walk false links here (".." :: rest) = t.walk false links here.dropLast rest := by
  rw [walk, hhere]
  simp [slash]

theorem walk_link {target : String} (hhere : t.get? here = some .dir)
    (hname : isProper name = true) (hshort : name.utf8ByteSize ≤ maxName)
    (hlink : t.get? (here ++ [name]) = some (.link target)) :
    t.walk false (links + 1) here (name :: rest) =
      t.walk false links (targetStart here target) (targetNames target ++ rest) := by
  obtain ⟨hdot, hdots, hslash⟩ := isProper_iff.mp hname
  rw [walk, hhere]
  simp [hdot, hdots, hslash, Nat.not_lt.mpr hshort, hlink]

theorem walk_name {node : Node} (hhere : t.get? here = some .dir)
    (hnode : t.get? (here ++ [name]) = some node) (hlink : ∀ target, node ≠ .link target)
    (hname : isProper name = true) (hshort : name.utf8ByteSize ≤ maxName) :
    t.walk false links here (name :: rest) = t.walk false links (here ++ [name]) rest := by
  obtain ⟨hdot, hdots, hslash⟩ := isProper_iff.mp hname
  rw [walk, hhere]
  cases node with
  | file octets => simp [hdot, hdots, hslash, Nat.not_lt.mpr hshort, hnode]
  | dir => simp [hdot, hdots, hslash, Nat.not_lt.mpr hshort, hnode]
  | link target => exact absurd rfl (hlink target)

theorem walk_free {making : Bool} (hhere : t.get? here = some .dir) (hname : isProper name = true)
    (hshort : name.utf8ByteSize ≤ maxName) (hfree : t.get? (here ++ [name]) = none) :
    t.walk making links here [name] = .ok (here ++ [name]) := by
  obtain ⟨hdot, hdots, hslash⟩ := isProper_iff.mp hname
  rw [walk, hhere]
  simp [hdot, hdots, hslash, endsInSlash, Nat.not_lt.mpr hshort, hfree]

theorem walk_tooLong (hhere : t.get? here = some .dir) (hname : isProper name = true)
    (hlong : maxName < name.utf8ByteSize) :
    t.walk false links here (name :: rest) = .error .nameTooLong := by
  obtain ⟨hdot, hdots, hslash⟩ := isProper_iff.mp hname
  rw [walk, hhere]
  simp [hdot, hdots, hslash, hlong]

/-! ### Whole walks -/

/-- `Leads t links here names left place`: from `here` the names lead to `place`, and of the links
that may be followed there are `left`. -/
inductive Leads (t : Tree) : Nat → Place → List String → Nat → Place → Prop
  | here {links : Nat} {here : Place} : Leads t links here [] links here
  | self {links left : Nat} {here place : Place} {name : String} {rest : List String} :
      t.get? here = some .dir → name = "." ∨ name = slash → Leads t links here rest left place →
      Leads t links here (name :: rest) left place
  | up {links left : Nat} {here place : Place} {rest : List String} :
      t.get? here = some .dir → Leads t links here.dropLast rest left place →
      Leads t links here (".." :: rest) left place
  | link {links left : Nat} {here place : Place} {name target : String} {rest : List String} :
      t.get? here = some .dir → isProper name = true → name.utf8ByteSize ≤ maxName →
      t.get? (here ++ [name]) = some (.link target) →
      Leads t links (targetStart here target) (targetNames target ++ rest) left place →
      Leads t (links + 1) here (name :: rest) left place
  | name {links left : Nat} {here place : Place} {name : String} {rest : List String} {node : Node} :
      t.get? here = some .dir → isProper name = true → name.utf8ByteSize ≤ maxName →
      t.get? (here ++ [name]) = some node → (∀ target, node ≠ .link target) →
      Leads t links (here ++ [name]) rest left place → Leads t links here (name :: rest) left place
  | free {links : Nat} {here : Place} {name : String} :
      t.get? here = some .dir → isProper name = true → name.utf8ByteSize ≤ maxName →
      t.get? (here ++ [name]) = none → Leads t links here [name] links (here ++ [name])

theorem leads_of_walk {making : Bool} (h : t.walk making links here names = .ok place) :
    ∃ left, Leads t links here names left place := by
  fun_induction walk t making links here names with
  | case1 links here =>
    cases h
    exact ⟨links, .here⟩
  | case2 links here name rest hdir hself ih =>
    obtain ⟨left, hleft⟩ := ih h
    exact ⟨left, .self hdir (by simpa using hself) hleft⟩
  | case3 links here rest hdir hself ih =>
    obtain ⟨left, hleft⟩ := ih h
    exact ⟨left, .up hdir hleft⟩
  | case7 here name rest hdir hself hup hmaking hshort target hlink links ih =>
    obtain ⟨left, hleft⟩ := ih h
    exact ⟨left, .link hdir (by simp_all [isProper]) (Nat.not_lt.mp hshort) hlink hleft⟩
  | case8 links here name rest hdir hself hup hmaking hshort node hlink hnode ih =>
    obtain ⟨left, hleft⟩ := ih h
    exact ⟨left, .name hdir (by simp_all [isProper]) (Nat.not_lt.mp hshort) hnode
      (fun target he => hlink target he) hleft⟩
  | case9 links here name hdir hself hup hshort hfree hmaking =>
    cases h
    exact ⟨links, .free hdir (by simp_all [isProper]) (Nat.not_lt.mp hshort) hfree⟩
  | case4 | case5 | case6 | case10 | case11 | case12 => cases h

/-- **A walk goes on from where it has led**, unless nothing stands there. -/
theorem Leads.walk_append {left : Nat} (h : Leads t links here names left place) (rest : List String)
    (hrest : rest = [] ∨ ∃ node, t.get? place = some node) :
    t.walk false links here (names ++ rest) = t.walk false left place rest := by
  induction h with
  | here => rfl
  | self hdir hname _ ih => rw [List.cons_append, walk_self hdir hname, ih hrest]
  | up hdir _ ih => rw [List.cons_append, walk_up hdir, ih hrest]
  | link hdir hname hshort hlink _ ih =>
    rw [List.cons_append, walk_link hdir hname hshort hlink, ← List.append_assoc, ih hrest]
  | name hdir hname hshort hnode hlink _ ih =>
    rw [List.cons_append, walk_name hdir hnode hlink hname hshort, ih hrest]
  | free hdir hname hshort hfree =>
    rcases hrest with rfl | ⟨node, hnode⟩
    · rw [List.append_nil, walk_free hdir hname hshort hfree, walk]
    · rw [hfree] at hnode
      cases hnode

theorem Leads.walk {left : Nat} (h : Leads t links here names left place) :
    t.walk false links here names = .ok place := by
  have hwalk := h.walk_append [] (.inl rfl)
  rwa [List.append_nil, Tree.walk.eq_def t false left place []] at hwalk

end Tree

/-! ### What paths lead to -/

theorem Path.text_ofNames_singleton (name : String) : (ofNames [name]).text = name := by
  simp [ofNames, text, Anchor.text, Text.join]

namespace Workspace

variable {w : Workspace} {p : Path} {node : Node}

theorem leads_of_locateTo {making : Bool} {place : Place} (h : w.locateTo making p = .ok place) :
    p.text.utf8ByteSize ≤ Tree.maxPath ∧
      ∃ left, w.tree.Leads Tree.maxLinks (w.start p) p.names left place := by
  rw [locateTo] at h
  split at h
  · cases h
  · rename_i hshort
    exact ⟨Nat.not_lt.mp hshort, Tree.leads_of_walk h⟩

theorem stat_eq_ok :
    w.stat p = .ok node ↔ ∃ place, w.locate p = .ok place ∧ w.tree.get? place = some node := by
  rw [stat]
  cases w.locate p with
  | error cause => simp
  | ok place => cases hnode : w.tree.get? place <;> simp [hnode]

theorem node?_eq_some : w.node? p = .ok (some node) ↔ p.holdsNul = false ∧ w.stat p = .ok node := by
  rw [node?]
  by_cases hnul : p.holdsNul = true
  · simp [hnul]
  · rw [if_neg hnul]
    split <;> simp_all

theorem exists?_eq_ok_true :
    w.exists? p = .ok true ↔ p.holdsNul = false ∧ ∃ node, w.stat p = .ok node := by
  rw [← exists_and_left]
  simp only [← node?_eq_some, exists?]
  cases w.node? p with
  | error fault => simp [Except.map]
  | ok found => simp [Except.map, Option.isSome_iff_exists]

theorem isFile?_eq_ok_true :
    w.isFile? p = .ok true ↔ p.holdsNul = false ∧ ∃ octets, w.stat p = .ok (.file octets) := by
  rw [← exists_and_left]
  simp only [← node?_eq_some, isFile?]
  cases w.node? p with
  | error fault => simp [Except.map]
  | ok found =>
    rcases found with _ | (octets | _ | target)
    · simp [Except.map]
    · simp [Except.map]
    · simp [Except.map]
    · simp [Except.map]

theorem read_eq_ok {octets : List UInt8} :
    w.read p = .ok octets ↔ p.holdsNul = false ∧ w.stat p = .ok (.file octets) := by
  rw [read]
  by_cases hnul : p.holdsNul = true
  · simp [hnul]
  · rw [if_neg hnul]
    split <;> simp_all

theorem isDir_eq_true : w.isDir p = true ↔ p.holdsNul = false ∧ w.stat p = .ok .dir := by
  rw [← node?_eq_some, isDir]
  split <;> simp_all

theorem locate_here : w.locate (.ofNames []) = .ok w.cwd := by
  have hshort : ¬ Tree.maxPath < (Path.ofNames []).text.utf8ByteSize := by decide +kernel
  rw [locate, locateTo, if_neg hshort]
  show w.tree.walk false Tree.maxLinks w.cwd [] = .ok w.cwd
  rw [Tree.walk]

theorem exists?_here (h : w.tree.get? w.cwd = some .dir) : w.exists? (.ofNames []) = .ok true :=
  exists?_eq_ok_true.mpr ⟨rfl, .dir, stat_eq_ok.mpr ⟨w.cwd, locate_here, h⟩⟩

end Workspace

end FeatureLint
