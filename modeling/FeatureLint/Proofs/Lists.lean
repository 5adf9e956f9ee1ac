import Mathlib.Data.List.Lex
import Mathlib.Data.List.TakeWhile

/-!
# Lists

What is used of lists in general: that of two lists which are laid end to end a run of the first
one stays what it was, what `List.splitOn` and `List.intercalate` hold, what is left out by
`List.filterMap`, and how lists are ordered.
-/

namespace FeatureLint

variable {α β γ : Type}

/-! ### Runs -/

theorem takeWhile_append_of_neg {P : α → Bool} (l₁ : List α) {l₂ : List α}
    (h : ∀ a ∈ l₂, P a = false) : (l₁ ++ l₂).takeWhile P = l₁.takeWhile P := by
  induction l₁ with
  | nil =>
    cases l₂ with
    | nil => rfl
    | cons a l₂ => simp [h a List.mem_cons_self]
  | cons b l₁ ih =>
    rw [List.cons_append, List.takeWhile_cons, List.takeWhile_cons, ih]

theorem dropWhile_append_of_neg {P : α → Bool} (l₁ : List α) {l₂ : List α}
    (h : ∀ a ∈ l₂, P a = false) : (l₁ ++ l₂).dropWhile P = l₁.dropWhile P ++ l₂ := by
  induction l₁ with
  | nil =>
    cases l₂ with
    | nil => rfl
    | cons a l₂ => simp [h a List.mem_cons_self]
  | cons b l₁ ih =>
    rw [List.cons_append, List.dropWhile_cons, List.dropWhile_cons, ih]
    split <;> rfl

theorem dropWhile_append_cons {P : α → Bool} {a : α} (ha : P a = false) (l₁ l₂ : List α) :
    (l₁ ++ a :: l₂).dropWhile P = l₁.dropWhile P ++ a :: l₂ := by
  rw [List.dropWhile_append, List.dropWhile_cons_of_neg (by simp [ha])]
  split
  · rename_i hempty
    rw [List.isEmpty_iff.mp hempty, List.nil_append]
  · rfl

/-! ### Pieces -/

theorem not_mem_of_mem_splitOn [BEq α] [LawfulBEq α] {a : α} {l piece : List α}
    (h : piece ∈ l.splitOn a) : a ∉ piece := by
  induction l generalizing piece with
  | nil =>
    rw [List.splitOn_nil, List.mem_singleton] at h
    simp [h]
  | cons x l ih =>
    obtain ⟨first, rest, hsplit⟩ := List.exists_cons_of_ne_nil (List.splitOn_ne_nil a l)
    rw [hsplit] at ih
    rw [List.splitOn_cons_eq_if_modifyHead, hsplit] at h
    split at h
    · rcases List.mem_cons.mp h with rfl | h
      · exact List.not_mem_nil
      · exact ih h
    · rename_i hx
      rcases List.mem_cons.mp h with rfl | h
      · have hax : a ≠ x := fun he => hx (beq_iff_eq.mpr he.symm)
        exact List.not_mem_cons_of_ne_of_not_mem hax (ih List.mem_cons_self)
      · exact ih (List.mem_cons_of_mem first h)

section Intercalate

variable {between : List α} {pieces : List (List α)}

theorem not_mem_intercalate {a : α} (hbetween : a ∉ between) (hpieces : ∀ l ∈ pieces, a ∉ l) :
    a ∉ between.intercalate pieces := by
  induction pieces with
  | nil => simp
  | cons first pieces ih => cases pieces <;> simp_all

theorem subset_intercalate {piece : List α} (h : piece ∈ pieces) :
    piece ⊆ between.intercalate pieces := by
  induction pieces with
  | nil => simp at h
  | cons first pieces ih =>
    cases pieces with
    | nil =>
      obtain rfl := List.mem_singleton.mp h
      simp
    | cons next pieces =>
      rw [List.intercalate_cons_cons, List.append_assoc]
      rcases List.mem_cons.mp h with rfl | h
      · exact List.subset_append_left piece _
      · exact List.Subset.trans (ih h) (List.subset_append_of_subset_right first
          (List.subset_append_right between _))

end Intercalate

/-! ### Selections -/

theorem filterMap_sublist {f g : α → Option β} {l : List α}
    (h : ∀ a ∈ l, f a = none ∨ f a = g a) : (l.filterMap f).Sublist (l.filterMap g) := by
  induction l with
  | nil => exact List.Sublist.slnil
  | cons a l ih =>
    obtain ⟨ha, hl⟩ := List.forall_mem_cons.mp h
    rcases ha with ha | ha
    · rw [List.filterMap_cons_none ha]
      exact (ih hl).trans ((List.sublist_cons_self a l).filterMap g)
    · cases hg : g a with
      | none =>
        rw [List.filterMap_cons_none (ha.trans hg), List.filterMap_cons_none hg]
        exact ih hl
      | some b =>
        rw [List.filterMap_cons_some (ha.trans hg), List.filterMap_cons_some hg]
        exact (ih hl).cons_cons b

theorem map_filterMap_sublist {f : α → Option β} {g : β → γ} {k : α → γ} {l : List α}
    (h : ∀ a ∈ l, ∀ b ∈ f a, g b = k a) : ((l.filterMap f).map g).Sublist (l.map k) := by
  induction l with
  | nil => exact List.Sublist.slnil
  | cons a l ih =>
    have hl := ih fun c hc => h c (List.mem_cons_of_mem a hc)
    rw [List.filterMap_cons]
    cases hb : f a with
    | none => exact hl.cons (k a)
    | some b =>
      rw [List.map_cons, List.map_cons, h a List.mem_cons_self b hb]
      exact hl.cons_cons (k a)

/-- What is taken from members and their numbers can be moved along with the numbers. -/
theorem filterMap_zipIdx_add {f : α × Nat → Option β} {n : Nat} {move : β → β}
    (h : ∀ a i, f (a, i + n) = (f (a, i)).map move) (l : List α) (k : Nat) :
    (l.zipIdx (k + n)).filterMap f = ((l.zipIdx k).filterMap f).map move := by
  rw [Nat.add_comm, ← List.map_snd_add_zipIdx_eq_zipIdx, List.filterMap_map, List.map_filterMap]
  congr 1
  funext ⟨a, i⟩
  exact h a i

theorem flatMap_filter_of_neg {P : α → Bool} {f : α → List β} (l : List α)
    (h : ∀ a, P a = false → f a = []) : (l.filter P).flatMap f = l.flatMap f := by
  induction l with
  | nil => rfl
  | cons a l ih =>
    rw [List.flatMap_cons, ← ih]
    by_cases ha : P a = true
    · rw [List.filter_cons_of_pos ha, List.flatMap_cons]
    · rw [List.filter_cons_of_neg ha, h a (by simpa using ha), List.nil_append]

/-! ### Orders -/

theorem lex_append_left_iff {r : α → α → Prop} [Std.Irrefl r] {l a b : List α} :
    List.Lex r (l ++ a) (l ++ b) ↔ List.Lex r a b := by
  induction l with
  | nil => rfl
  | cons x l ih => rw [List.cons_append, List.cons_append, List.lex_cons_iff, ih]

theorem mergeSort_pairwise_lt (key : α → String) {l : List α}
    (h : l.Pairwise fun a b => key a ≠ key b) :
    (l.mergeSort fun a b => key a ≤ key b).Pairwise fun a b => key a < key b := by
  have hne : (l.mergeSort fun a b => key a ≤ key b).Pairwise fun a b => key a ≠ key b :=
    ((List.mergeSort_perm l _).pairwise_iff fun hab => hab.symm).mpr h
  have hle : (l.mergeSort fun a b => key a ≤ key b).Pairwise fun a b => decide (key a ≤ key b) :=
    List.pairwise_mergeSort (fun a b c => by simpa using String.le_trans)
      (fun a b => by simpa using String.le_total (key a) (key b)) l
  refine hle.imp₂ (fun a b hab hne => ?_) hne
  rw [decide_eq_true_eq] at hab
  exact String.not_le.mp fun hba => hne (String.le_antisymm hab hba)

end FeatureLint
