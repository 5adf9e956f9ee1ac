import FeatureLint.Feature.Line

/-!
# The marks of lines

Each rule of `Feature/Line.lean` looks for a mark of its own.  This file says for each of them which
lines have the mark, and that no line has the marks of two rules (`rules_apart`).  Most rules are
told apart by the first character of a line.  The headings of scenarios and of outlines start alike,
and there it takes that no keyword is the beginning of another (`keyword_eq_of_starts`).

So a rule that recognises a line decides what the line is, wherever it stands among the rules
(`classifyBy_of_mem`), and what a line is can be read off its text:

* `classify_of_hash_or_at`, `classify_of_keyword`: remarks and headings.
* `classify_eq_heading`, `classify_eq_row`: a heading is a line that starts with a keyword, a row one
  with a bar at each end.
-/

namespace FeatureLint

theorem Text.after?_eq_some {start cs rest : List Char} :
    after? start cs = some rest ↔ cs = start ++ rest := by
  induction start generalizing cs with
  | nil => simp [after?, eq_comm]
  | cons s start ih =>
    cases cs with
    | nil => simp [after?]
    | cons c cs =>
      rw [after?, List.cons_append, List.cons_eq_cons]
      by_cases hc : s = c
      · rw [if_pos hc, ih]
        simp [hc]
      · simp [hc, Ne.symm hc]

namespace Line

variable {r s : Rule} {rs : List Rule} {k k' : Keyword} {line : String} {l : Line}

/-! ### What each rule recognises -/

theorem blankRule_eq_some : blankRule line = some l ↔ line = "" ∧ l = blank := by
  rw [blankRule]
  split <;> simp_all [eq_comm]

theorem remarkRule_eq_some :
    remarkRule line = some l ↔
      (line.toList.head? = some '#' ∨ line.toList.head? = some '@') ∧ l = remark line := by
  rw [remarkRule]
  split
  · rename_i hline
    simp [hline, eq_comm]
  · rename_i hline
    simp [hline, eq_comm]
  · rename_i hhash hat
    cases hline : line.toList with
    | nil => simp
    | cons c cs =>
      have hc : c ≠ '#' := fun hc => hhash cs (by rw [hline, hc])
      have hc' : c ≠ '@' := fun hc => hat cs (by rw [hline, hc])
      simp [hc, hc']

theorem headingRule_eq_some :
    headingRule k line = some l ↔
      ∃ rest, line.toList = k.text.toList ++ rest ∧
        l = heading k (String.ofList (Text.trim rest)) := by
  simp only [headingRule, Option.map_eq_some_iff, Text.after?_eq_some, eq_comm (a := l)]

theorem rowRule_eq_some :
    rowRule line = some l ↔
      (line.toList.head? = some '|' ∧ line.toList.getLast? = some '|') ∧
        l = row line (cellsOf line.toList) := by
  rw [rowRule, Option.ite_none_right_eq_some, Option.some.injEq, eq_comm (a := l)]

/-! ### No line has two marks -/

/-- No line is recognised by both of two rules. -/
def Apart (r s : Rule) : Prop := ∀ line, r line = none ∨ s line = none

/-- Every line that a rule recognises starts with one of some characters, or with none at all. -/
def StartsWith (firsts : List (Option Char)) (r : Rule) : Prop :=
  ∀ line l, r line = some l → line.toList.head? ∈ firsts

theorem apart_of_startsWith {as bs : List (Option Char)} (hr : StartsWith as r)
    (hs : StartsWith bs s) (hdisjoint : ∀ c ∈ as, c ∉ bs) : Apart r s := by
  intro line
  cases hline : r line with
  | none => exact Or.inl rfl
  | some l =>
    refine Or.inr (Option.eq_none_iff_forall_ne_some.mpr fun m hm => ?_)
    exact hdisjoint _ (hr line l hline) (hs line m hm)

theorem startsWith_blank : StartsWith [none] blankRule := by
  intro line l h
  rw [(blankRule_eq_some.mp h).1]
  decide

theorem startsWith_remark : StartsWith [some '#', some '@'] remarkRule := by
  intro line l h
  rcases (remarkRule_eq_some.mp h).1 with hhead | hhead <;> simp [hhead]

theorem startsWith_heading (k : Keyword) : StartsWith [k.text.toList.head?] (headingRule k) := by
  intro line l h
  obtain ⟨rest, hline, -⟩ := headingRule_eq_some.mp h
  rw [hline]
  cases k <;> simp [Keyword.text]

theorem startsWith_row : StartsWith [some '|'] rowRule := by
  intro line l h
  simp [(rowRule_eq_some.mp h).1.1]

theorem keyword_eq_of_starts (h : k.text.toList <+: k'.text.toList) : k = k' := by
  revert h
  cases k <;> cases k' <;> decide

theorem apart_headings (hne : k ≠ k') : Apart (headingRule k) (headingRule k') := by
  intro line
  cases hline : headingRule k line with
  | none => exact Or.inl rfl
  | some l =>
    -- both keywords would begin the line, and so one of them the other
    refine Or.inr (Option.eq_none_iff_forall_ne_some.mpr fun m hm => hne ?_)
    obtain ⟨rest, hrest, -⟩ := headingRule_eq_some.mp hline
    obtain ⟨rest', hrest', -⟩ := headingRule_eq_some.mp hm
    rcases List.prefix_or_prefix_of_prefix ⟨rest, hrest.symm⟩ ⟨rest', hrest'.symm⟩ with h | h
    · exact keyword_eq_of_starts h
    · exact (keyword_eq_of_starts h).symm

/-- **No line is recognised by two rules.** -/
theorem rules_apart : rules.Pairwise Apart := by
  have blank_remark : Apart blankRule remarkRule :=
    apart_of_startsWith startsWith_blank startsWith_remark (by decide)
  have blank_heading : ∀ k, Apart blankRule (headingRule k) := fun k =>
    apart_of_startsWith startsWith_blank (startsWith_heading k) (by cases k <;> decide)
  have blank_row : Apart blankRule rowRule :=
    apart_of_startsWith startsWith_blank startsWith_row (by decide)
  have remark_heading : ∀ k, Apart remarkRule (headingRule k) := fun k =>
    apart_of_startsWith startsWith_remark (startsWith_heading k) (by cases k <;> decide)
  have remark_row : Apart remarkRule rowRule :=
    apart_of_startsWith startsWith_remark startsWith_row (by decide)
  have heading_row : ∀ k, Apart (headingRule k) rowRule := fun k =>
    apart_of_startsWith (startsWith_heading k) startsWith_row (by cases k <;> decide)
  simp [rules, blank_remark, blank_heading, blank_row, remark_heading, remark_row, heading_row,
    apart_headings]

/-! ### What a line is -/

theorem classifyBy_of_mem (hrs : rs.Pairwise Apart) (hr : r ∈ rs) (hline : r line = some l) :
    classifyBy rs line = l := by
  obtain ⟨above, below, rfl⟩ := List.append_of_mem hr
  have habove : ∀ s ∈ above, s line = none := by
    intro s hs
    have hapart := (List.pairwise_append.mp hrs).2.2 s hs r List.mem_cons_self
    rcases hapart line with h | h
    · exact h
    · rw [hline] at h
      cases h
  rw [classifyBy, List.findSome?_eq_some_iff.mpr ⟨above, r, below, rfl, hline, habove⟩]
  rfl

theorem classifyBy_cases (rs : List Rule) (line : String) :
    (∃ r ∈ rs, r line = some (classifyBy rs line)) ∨ classifyBy rs line = other line := by
  rw [classifyBy]
  cases hsome : rs.findSome? (· line) with
  | none => exact Or.inr rfl
  | some l =>
    obtain ⟨above, r, below, rfl, hr, -⟩ := List.findSome?_eq_some_iff.mp hsome
    exact Or.inl ⟨r, by simp, hr⟩

theorem classify_of_mem (hr : r ∈ rules) (hline : r line = some l) : classify line = l :=
  classifyBy_of_mem rules_apart hr hline

theorem classify_of_hash_or_at
    (h : line.toList.head? = some '#' ∨ line.toList.head? = some '@') :
    classify line = remark line :=
  classify_of_mem (r := remarkRule) (by simp [rules]) (remarkRule_eq_some.mpr ⟨h, rfl⟩)

theorem classify_of_keyword {rest : List Char} (h : line.toList = k.text.toList ++ rest) :
    classify line = heading k (String.ofList (Text.trim rest)) :=
  classify_of_mem (r := headingRule k) (by cases k <;> simp [rules])
    (headingRule_eq_some.mpr ⟨rest, h, rfl⟩)

/-- **A line is a heading** if it starts with the keyword. -/
theorem classify_eq_heading {title : String} :
    classify line = heading k title ↔
      ∃ rest, line.toList = k.text.toList ++ rest ∧ title = String.ofList (Text.trim rest) := by
  constructor
  · intro h
    rcases classifyBy_cases rules line with ⟨r, hr, hline⟩ | hother
    · rw [← classify, h] at hline
      simp only [rules, List.mem_cons, List.not_mem_nil, or_false] at hr
      rcases hr with rfl | rfl | rfl | rfl | rfl | rfl | rfl
      · cases (blankRule_eq_some.mp hline).2
      · cases (remarkRule_eq_some.mp hline).2
      iterate 4
        · obtain ⟨rest, hrest, hheading⟩ := headingRule_eq_some.mp hline
          cases hheading
          exact ⟨rest, hrest, rfl⟩
      · cases (rowRule_eq_some.mp hline).2
    · rw [← classify, h] at hother
      cases hother
  · rintro ⟨rest, hrest, rfl⟩
    exact classify_of_keyword hrest

/-- **A line is a row** if it has a bar at each end. -/
theorem classify_eq_row {text : String} {cells : List String} :
    classify line = row text cells ↔
      (line.toList.head? = some '|' ∧ line.toList.getLast? = some '|') ∧
        text = line ∧ cells = cellsOf line.toList := by
  constructor
  · intro h
    rcases classifyBy_cases rules line with ⟨r, hr, hline⟩ | hother
    · rw [← classify, h] at hline
      simp only [rules, List.mem_cons, List.not_mem_nil, or_false] at hr
      rcases hr with rfl | rfl | rfl | rfl | rfl | rfl | rfl
      · cases (blankRule_eq_some.mp hline).2
      · cases (remarkRule_eq_some.mp hline).2
      iterate 4
        · obtain ⟨rest, -, hrow⟩ := headingRule_eq_some.mp hline
          cases hrow
      · obtain ⟨hbars, hrow⟩ := rowRule_eq_some.mp hline
        cases hrow
        exact ⟨hbars, rfl, rfl⟩
    · rw [← classify, h] at hother
      cases hother
  · rintro ⟨hbars, rfl, rfl⟩
    exact classify_of_mem (r := rowRule) (by simp [rules]) (rowRule_eq_some.mpr ⟨hbars, rfl⟩)

end Line

end FeatureLint
