import FeatureLint.Text.Blank
import Mathlib.Data.List.DropRight

/-!
# Trimmed texts

Trimming takes blanks away from the two ends of a text and nothing else (`exists_padding`), and what
is left is trimmed (`isTrimmed_trim`).  A text that is trimmed already comes back, whatever blanks
are put around it (`trim_padded`).  Trimming is done from the left and then from the right, and what
is known of the right end is what is known of the left end of the reversed text.
-/

namespace FeatureLint.Text

variable {cs left right : List Char}

structure IsTrimmed (cs : List Char) : Prop where
  head : ∀ c ∈ cs.head?, isBlank c = false
  last : ∀ c ∈ cs.getLast?, isBlank c = false

/-! ### One end -/

theorem trimLeft_append (h : ∀ c ∈ left, isBlank c = true) :
    trimLeft (left ++ cs) = trimLeft cs := List.dropWhile_append_of_pos h

theorem trimRight_append (h : ∀ c ∈ right, isBlank c = true) :
    trimRight (cs ++ right) = trimRight cs := by
  rw [trimRight, List.reverse_append, List.dropWhile_append_of_pos (by simpa using h), trimRight]

theorem trimLeft_eq_self : trimLeft cs = cs ↔ ∀ c ∈ cs.head?, isBlank c = false := by
  rw [trimLeft, List.dropWhile_eq_self_iff]
  cases cs <;> simp

theorem trimRight_eq_self : trimRight cs = cs ↔ ∀ c ∈ cs.getLast?, isBlank c = false := by
  rw [← List.head?_reverse, ← trimLeft_eq_self]
  exact List.reverse_eq_iff

theorem head?_trimLeft : ∀ c ∈ (trimLeft cs).head?, isBlank c = false := by
  intro c hc
  have hhead := List.head?_dropWhile_not isBlank cs
  rw [trimLeft, Option.mem_def] at hc
  rwa [hc] at hhead

theorem getLast?_trimRight : ∀ c ∈ (trimRight cs).getLast?, isBlank c = false := by
  intro c hc
  rw [trimRight, List.getLast?_reverse] at hc
  exact head?_trimLeft c hc

theorem exists_left_padding (cs : List Char) :
    ∃ left, cs = left ++ trimLeft cs ∧ ∀ c ∈ left, isBlank c = true :=
  ⟨cs.takeWhile isBlank, List.takeWhile_append_dropWhile.symm, fun _ => List.mem_takeWhile_imp⟩

theorem exists_right_padding (cs : List Char) :
    ∃ right, cs = trimRight cs ++ right ∧ ∀ c ∈ right, isBlank c = true := by
  obtain ⟨left, hreverse, hblank⟩ := exists_left_padding cs.reverse
  refine ⟨left.reverse, ?_, by simpa using hblank⟩
  calc
    cs = (left ++ trimLeft cs.reverse).reverse := by rw [← hreverse, List.reverse_reverse]
    _ = trimRight cs ++ left.reverse := List.reverse_append

/-! ### Both ends -/

/-- **Blanks around a text are taken away.** -/
theorem trim_padded (hleft : ∀ c ∈ left, isBlank c = true)
    (hright : ∀ c ∈ right, isBlank c = true) :
    trim (left ++ cs ++ right) = trim cs := by
  rw [List.append_assoc, trim, trimLeft_append hleft, trim, trimLeft, List.dropWhile_append]
  split
  · -- nothing but blanks, on the right too
    rename_i hempty
    rw [List.dropWhile_eq_nil_iff.mpr hright, trimLeft, List.isEmpty_iff.mp hempty]
  · exact trimRight_append hright

/-- Nothing else is taken away. -/
theorem exists_padding (cs : List Char) :
    ∃ left right, cs = left ++ trim cs ++ right ∧ (∀ c ∈ left, isBlank c = true) ∧
      ∀ c ∈ right, isBlank c = true := by
  obtain ⟨left, hcs, hleft⟩ := exists_left_padding cs
  obtain ⟨right, hrest, hright⟩ := exists_right_padding (trimLeft cs)
  refine ⟨left, right, ?_, hleft, hright⟩
  rw [List.append_assoc, trim, ← hrest]
  exact hcs

theorem trim_of_isTrimmed (h : IsTrimmed cs) : trim cs = cs := by
  rw [trim, trimLeft_eq_self.mpr h.head, trimRight_eq_self.mpr h.last]

/-- **What is left is trimmed.** -/
theorem isTrimmed_trim (cs : List Char) : IsTrimmed (trim cs) where
  head := by
    intro c hc
    obtain ⟨right, hrest, -⟩ := exists_right_padding (trimLeft cs)
    have hhead : c ∈ (trimLeft cs).head? := by
      rw [hrest]
      exact List.mem_head?_append_of_mem_head? hc
    exact head?_trimLeft c hhead
  last := getLast?_trimRight

theorem trim_eq_self : trim cs = cs ↔ IsTrimmed cs :=
  ⟨fun h => h ▸ isTrimmed_trim cs, trim_of_isTrimmed⟩

-- to try the character at each end, as the fields of `IsTrimmed` do, is to try all characters
instance : DecidablePred IsTrimmed := fun cs => decidable_of_iff (trim cs = cs) trim_eq_self

theorem trim_eq_nil : trim cs = [] ↔ ∀ c ∈ cs, isBlank c = true := by
  constructor
  · intro h
    obtain ⟨left, right, hcs, hleft, hright⟩ := exists_padding cs
    rw [h, List.append_nil] at hcs
    intro c hc
    rw [hcs] at hc
    exact (List.mem_append.mp hc).elim (hleft c) (hright c)
  · intro h
    have hnil : trim (cs ++ [] ++ []) = trim [] := trim_padded h (by simp)
    rw [List.append_nil, List.append_nil] at hnil
    exact hnil

theorem trim_subset (cs : List Char) : trim cs ⊆ cs := by
  obtain ⟨left, right, hcs, -, -⟩ := exists_padding cs
  intro c hc
  rw [hcs]
  exact List.mem_append_left right (List.mem_append_right left hc)

theorem mem_trim {c : Char} (hc : isBlank c = false) : c ∈ trim cs ↔ c ∈ cs := by
  obtain ⟨left, right, hcs, hleft, hright⟩ := exists_padding cs
  have hnotLeft : c ∉ left := fun h => by simp [hleft c h] at hc
  have hnotRight : c ∉ right := fun h => by simp [hright c h] at hc
  conv_rhs => rw [hcs]
  simp [hnotLeft, hnotRight]

end FeatureLint.Text
