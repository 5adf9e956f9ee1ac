import FeatureLint.Proofs.Readings
import FeatureLint.Proofs.WellFormedTrees

/-!
# Paths and the texts that spell them

A path that was read from text has names of a kind (`Path.Spelled`): none is empty or `.`, and none
holds a slash.  Such a path can be read off from what is written for it (`ofString_text`), so two of
them with one text are one path.  It can also be read off from its parts (`parts_injective`), as no
name can be taken for the slashes in front of an absolute path.

Paths are sorted by their parts.  Among paths that texts spell two that stand at one place of this
order are therefore equal, and sorting forgets in what order they were given (`sort_eq_of_perm`).
An inspection sorts its paths before it does anything else, so it forgets that order too
(`inspect_perm`).
-/

namespace FeatureLint

namespace Path

/-- A path whose names are as in a path that was read from text. -/
structure Spelled (p : Path) : Prop where
  areNames : Tree.AreNames p.names
  notEmpty : "" ∉ p.names
  notHere : "." ∉ p.names

theorem spelled_ofString (s : String) : (ofString s).Spelled where
  areNames := areNames_ofString s
  notEmpty := by simp [ofString, namesOf]
  notHere := by simp [ofString, namesOf]

theorem spelled_of_mem_map {texts : List String} {p : Path} (h : p ∈ texts.map ofString) :
    p.Spelled := by
  obtain ⟨text, -, rfl⟩ := List.mem_map.mp h
  exact spelled_ofString text

/-! ### Reading back what is written -/

theorem namesOf_slash (cs : List Char) : namesOf ('/' :: cs) = namesOf cs := by
  simp [namesOf, List.splitOn_cons_eq_if_modifyHead]

theorem namesOf_anchor (anchor : Anchor) (cs : List Char) :
    namesOf (anchor.text.toList ++ cs) = namesOf cs := by
  cases anchor with
  | current => rfl
  | root => exact namesOf_slash cs
  | doubleRoot => exact (namesOf_slash ('/' :: cs)).trans (namesOf_slash cs)

theorem anchor_ofChars (anchor : Anchor) {cs : List Char} (h : cs.head? ≠ some '/') :
    Anchor.ofChars (anchor.text.toList ++ cs) = anchor := by
  have hcs : cs.takeWhile (· = '/') = [] := by
    cases cs with
    | nil => rfl
    | cons c cs =>
      have hc : c ≠ '/' := fun he => h (by rw [he, List.head?_cons])
      simp [hc]
  have hslashes : ∀ c ∈ anchor.text.toList, decide (c = '/') = true := by
    cases anchor <;> simp [Anchor.text]
  rw [Anchor.ofChars, List.takeWhile_append_of_pos hslashes, hcs, List.append_nil]
  cases anchor <;> rfl

section Spelled

variable {p q : Path}

theorem namesOf_join (hp : p.Spelled) (hne : p.names ≠ []) :
    namesOf (Text.join "/" p.names).toList = p.names := by
  have hsplit : (Text.join "/" p.names).toList.splitOn '/' = p.names.map String.toList :=
    Tree.splitOn_join rfl hp.areNames hne
  have hback : (p.names.map String.toList).map String.ofList = p.names := by
    simp
  rw [namesOf, hsplit, hback, List.filter_eq_self]
  intro name hname
  have hempty : name ≠ "" := fun he => hp.notEmpty (he ▸ hname)
  have hhere : name ≠ "." := fun he => hp.notHere (he ▸ hname)
  simp [hempty, hhere]

theorem head_join_ne_slash (hp : p.Spelled) :
    (Text.join "/" p.names).toList.head? ≠ some '/' := by
  cases hnames : p.names with
  | nil => decide
  | cons name rest =>
    have hmem : name ∈ p.names := by rw [hnames]; exact List.mem_cons_self
    have hempty : name.toList ≠ [] := by
      intro he
      exact hp.notEmpty (String.toList_eq_nil_iff.mp he ▸ hmem)
    have hhead : (Text.join "/" (name :: rest)).toList.head? = name.toList.head? := by
      rw [Text.join, String.toList_intercalate]
      cases hchars : name.toList with
      | nil => exact absurd hchars hempty
      | cons c cs => cases rest <;> simp [hchars, List.intercalate]
    rw [hhead]
    intro hslash
    exact hp.areNames name hmem (List.mem_of_mem_head? hslash)

/-- **A path is spelled by what is written for it.** -/
theorem ofString_text (hp : p.Spelled) : ofString p.text = p := by
  obtain ⟨anchor, names⟩ := p
  by_cases hne : names = []
  · subst hne
    cases anchor <;> rfl
  · -- the slashes in front give back the anchor, and what follows them the names
    have htext : (text ⟨anchor, names⟩).toList =
        anchor.text.toList ++ (Text.join "/" names).toList := by
      simp [text, hne]
    rw [ofString, htext, anchor_ofChars anchor (head_join_ne_slash hp), namesOf_anchor,
      namesOf_join hp hne]

theorem text_injective (hp : p.Spelled) (hq : q.Spelled) (h : p.text = q.text) : p = q := by
  rw [← ofString_text hp, ← ofString_text hq, h]

/-! ### The order of paths -/

theorem parts_of_current (h : p.anchor = .current) : p.parts = p.names := by
  rw [parts, h]

theorem parts_of_absolute (h : p.anchor ≠ .current) : p.parts = p.anchor.text :: p.names := by
  rw [parts]
  split
  · rename_i hcurrent
    exact absurd hcurrent h
  · rfl

/-- No name can be taken for the slashes of an anchor. -/
theorem names_ne_anchor_cons (hp : p.Spelled) {anchor : Anchor} (h : anchor ≠ .current)
    (names : List String) : p.names ≠ anchor.text :: names := by
  intro he
  refine hp.areNames anchor.text (by rw [he]; exact List.mem_cons_self) ?_
  cases anchor with
  | current => exact absurd rfl h
  | root => decide
  | doubleRoot => decide

theorem Anchor.text_injective {a b : Anchor} (h : a.text = b.text) : a = b := by
  revert h
  cases a <;> cases b <;> decide

theorem eq_of_parts_eq (ha : p.anchor = q.anchor) (h : p.parts = q.parts) : p = q := by
  by_cases hcurrent : q.anchor = .current
  · rw [parts_of_current (ha.trans hcurrent), parts_of_current hcurrent] at h
    exact congrArg₂ Path.mk ha h
  · rw [parts_of_absolute (ha ▸ hcurrent), parts_of_absolute hcurrent, List.cons.injEq] at h
    exact congrArg₂ Path.mk ha h.2

theorem parts_injective (hp : p.Spelled) (hq : q.Spelled) (h : p.parts = q.parts) : p = q := by
  refine eq_of_parts_eq ?_ h
  -- if only one of the paths is absolute, its slashes would be a name of the other
  by_cases ha : p.anchor = .current
  · by_cases hb : q.anchor = .current
    · exact ha.trans hb.symm
    · rw [parts_of_current ha, parts_of_absolute hb] at h
      exact absurd h (names_ne_anchor_cons hp hb q.names)
  · by_cases hb : q.anchor = .current
    · rw [parts_of_absolute ha, parts_of_current hb] at h
      exact absurd h.symm (names_ne_anchor_cons hq ha p.names)
    · rw [parts_of_absolute ha, parts_of_absolute hb, List.cons.injEq] at h
      exact Anchor.text_injective h.1

/-- `p` stands before `q`: its parts come first, name by name. -/
def Before (p q : Path) : Prop := List.Lex (· < ·) p.parts q.parts

theorem le_iff_not_before : p.le q = true ↔ ¬ q.Before p := by
  rw [le, Before, Bool.not_eq_true', ← Bool.not_eq_true, List.lex_eq_true_iff_lex]
  simp

instance : Std.Irrefl Before := ⟨fun p => List.lt_irrefl p.parts⟩

instance : Std.Antisymm Before := ⟨fun _ _ h h' => absurd h' (List.lt_asymm h)⟩

theorem Before.le (h : p.Before q) : p.le q = true :=
  le_iff_not_before.mpr (List.lt_asymm h)

theorem parts_eq_of_le (hpq : p.le q = true) (hqp : q.le p = true) : p.parts = q.parts :=
  List.le_antisymm (le_iff_not_before.mp hpq) (le_iff_not_before.mp hqp)

theorem le_antisymm (hp : p.Spelled) (hq : q.Spelled) (hpq : p.le q = true) (hqp : q.le p = true) :
    p = q :=
  parts_injective hp hq (parts_eq_of_le hpq hqp)

end Spelled

/-- **Sorting forgets the order** in which paths were given. -/
theorem sort_eq_of_perm {paths paths' : List Path} (hpaths : ∀ p ∈ paths, p.Spelled)
    (h : paths.Perm paths') : sort paths = sort paths' := by
  refine List.Perm.eq_of_pairwise ?_ (sort_pairwise paths) (sort_pairwise paths')
    ((sort_perm paths).trans (h.trans (sort_perm paths').symm))
  intro p q hp hq
  have hq' : q ∈ paths := h.mem_iff.mpr (mem_sort.mp hq)
  exact le_antisymm (hpaths p (mem_sort.mp hp)) (hpaths q hq')

end Path

namespace Inspection

/-- **The order of the given paths does not matter.**  Two lists of texts that spell the same paths,
each as often, in whatever order, give one report and the same events, or the same fault after the
same events. -/
theorem inspect_perm (w : Workspace) (s : Settings) (root : Path) (texts texts' : List String)
    (permuted : (texts.map Path.ofString).Perm (texts'.map Path.ofString)) :
    inspect w s root (texts.map .ofString) = inspect w s root (texts'.map .ofString) := by
  have hsort := Path.sort_eq_of_perm (fun _ => Path.spelled_of_mem_map) permuted
  rw [inspect, inspect, readings, readings, hsort]

/-- Two files whose descriptions differ in letter case only, so that the order decides which
spelling is shown, given in two orders and by four texts. -/
theorem inspect_perm_two_spellings :
    let w : Workspace := ⟨⟨[(["a"], .file (Text.Utf8.encode "Feature: One".toList)),
      (["b"], .file (Text.Utf8.encode "Feature: one".toList))]⟩, []⟩
    let s : Settings := { Settings.default with caseSensitive := .bool false }
    let texts := ["b", "./a"]
    let texts' := ["a/", ".//b"]
    (texts.map Path.ofString).Perm (texts'.map .ofString) ∧
      inspect w s (.ofNames []) (texts.map .ofString) =
        inspect w s (.ofNames []) (texts'.map .ofString) := by
  intro w s texts texts'
  have hperm : (texts.map Path.ofString).Perm (texts'.map .ofString) := by decide +kernel
  exact ⟨hperm, inspect_perm w s (.ofNames []) texts texts' hperm⟩

end Inspection

end FeatureLint
