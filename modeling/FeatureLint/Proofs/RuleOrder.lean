import FeatureLint.Proofs.LineMarks
import FeatureLint.Proofs.TrimmedText

/-!
# The order of the rules

`classify` asks the rules one after the other, and the first that recognises a line decides.  It
looks as if their order mattered, most of all for the keywords of outlines and scenarios, which
begin with the same word.  It does not.  A rule recognises the lines with its own mark and no others
(`Mark.exists_rule_eq_some_iff`), and what a line is tells its mark again (`mark?_classify`), so no
line has two marks (`Mark.On.unique`).

Whoever asks the rules in another order, the keywords among themselves or all of them, is therefore
told the same (`classifyBy_perm`).
-/

namespace FeatureLint.Line

/-- What there is to see of a line before it is known what it is. -/
inductive Mark where
  | nothing
  | hashOrAt
  | keyword (k : Keyword)
  | bars
  deriving DecidableEq, Repr

namespace Mark

def On (line : String) : Mark → Prop
  | nothing => line = ""
  | hashOrAt => ['#'] <+: line.toList ∨ ['@'] <+: line.toList
  | keyword k => k.text.toList <+: line.toList
  | bars => ['|'] <+: line.toList ∧ ['|'] <:+ line.toList

instance (line : String) : DecidablePred (On line)
  | nothing => inferInstanceAs (Decidable (line = ""))
  | hashOrAt => inferInstanceAs (Decidable (['#'] <+: line.toList ∨ ['@'] <+: line.toList))
  | keyword k => inferInstanceAs (Decidable (k.text.toList <+: line.toList))
  | bars => inferInstanceAs (Decidable (['|'] <+: line.toList ∧ ['|'] <:+ line.toList))

def rule : Mark → Rule
  | nothing => blankRule
  | hashOrAt => remarkRule
  | keyword k => headingRule k
  | bars => rowRule

end Mark

/-- The mark of a line, by what it is; other text has none. -/
def mark? : Line → Option Mark
  | heading k _ => some (.keyword k)
  | row _ _ => some .bars
  | remark _ => some .hashOrAt
  | blank => some .nothing
  | other _ => none

variable {rs : List Rule} {r : Rule} {line : String} {m m' : Mark}

/-! ### Rules and marks -/

theorem mem_rules_iff : r ∈ rules ↔ ∃ m : Mark, m.rule = r := by
  constructor
  · intro h
    simp only [rules, List.mem_cons, List.not_mem_nil, or_false] at h
    rcases h with rfl | rfl | rfl | rfl | rfl | rfl | rfl
    · exact ⟨.nothing, rfl⟩
    · exact ⟨.hashOrAt, rfl⟩
    · exact ⟨.keyword .feature, rfl⟩
    · exact ⟨.keyword .outline, rfl⟩
    · exact ⟨.keyword .scenario, rfl⟩
    · exact ⟨.keyword .examples, rfl⟩
    · exact ⟨.bars, rfl⟩
  · rintro ⟨m, rfl⟩
    cases m with
    | keyword k => cases k <;> simp [rules, Mark.rule]
    | _ => simp [rules, Mark.rule]

/-- **A rule recognises the lines with its mark.** -/
theorem Mark.exists_rule_eq_some_iff : (∃ l, m.rule line = some l) ↔ m.On line := by
  cases m with
  | nothing => simp [rule, On, blankRule_eq_some]
  | hashOrAt => simp [rule, On, remarkRule_eq_some, List.singleton_prefix_iff_head?_eq_some]
  | keyword k =>
    simp only [rule, On, headingRule_eq_some]
    constructor
    · rintro ⟨l, rest, hrest, -⟩
      exact ⟨rest, hrest.symm⟩
    · rintro ⟨rest, hrest⟩
      exact ⟨_, rest, hrest.symm, rfl⟩
  | bars => simp [rule, On, rowRule_eq_some, List.singleton_prefix_iff_head?_eq_some,
      List.singleton_suffix_iff_getLast?_eq_some]

theorem mark?_of_rule {l : Line} (h : m.rule line = some l) : l.mark? = some m := by
  cases m with
  | nothing => rw [(blankRule_eq_some.mp h).2, mark?]
  | hashOrAt => rw [(remarkRule_eq_some.mp h).2, mark?]
  | keyword k =>
    obtain ⟨rest, -, rfl⟩ := headingRule_eq_some.mp h
    rfl
  | bars => rw [(rowRule_eq_some.mp h).2, mark?]

/-- **What a line is tells its mark.** -/
theorem mark?_classify : (classify line).mark? = some m ↔ m.On line := by
  rw [← Mark.exists_rule_eq_some_iff]
  constructor
  · intro hmark
    rcases classifyBy_cases rules line with ⟨r, hr, hline⟩ | hother
    · obtain ⟨m', rfl⟩ := mem_rules_iff.mp hr
      have hmark' : (classify line).mark? = some m' := mark?_of_rule hline
      obtain rfl : m' = m := Option.some.inj (hmark'.symm.trans hmark)
      exact ⟨_, hline⟩
    · rw [classify, hother] at hmark
      cases hmark
  · rintro ⟨l, hline⟩
    rw [classify_of_mem (mem_rules_iff.mpr ⟨m, rfl⟩) hline]
    exact mark?_of_rule hline

theorem Mark.On.unique (h : m.On line) (h' : m'.On line) : m = m' :=
  Option.some.inj ((mark?_classify.mpr h).symm.trans (mark?_classify.mpr h'))

theorem classify_eq_other : classify line = other line ↔ ∀ m : Mark, ¬ m.On line := by
  constructor
  · intro hother m hm
    have hmark := mark?_classify.mpr hm
    rw [hother] at hmark
    cases hmark
  · intro hnone
    rcases classifyBy_cases rules line with ⟨r, hr, hline⟩ | hother
    · obtain ⟨m, rfl⟩ := mem_rules_iff.mp hr
      exact absurd (Mark.exists_rule_eq_some_iff.mp ⟨_, hline⟩) (hnone m)
    · exact hother

/-! ### Asking in another order -/

theorem Apart.symm {s : Rule} (h : Apart r s) : Apart s r := fun line => (h line).symm

theorem classifyBy_perm (h : rs.Perm rules) (line : String) :
    classifyBy rs line = classify line := by
  have hapart : rs.Pairwise Apart := (h.pairwise_iff Apart.symm).mpr rules_apart
  rcases classifyBy_cases rules line with ⟨r, hr, hline⟩ | hother
  · -- the rule that has decided is among the others, and decides there too
    exact classifyBy_of_mem hapart (h.mem_iff.mpr hr) hline
  · rcases classifyBy_cases rs line with ⟨r, hr, hline⟩ | hother'
    · exact (classify_of_mem (h.mem_iff.mp hr) hline).symm
    · exact hother'.trans hother.symm

theorem isTrimmed_title {k : Keyword} {title : String} (h : classify line = heading k title) :
    Text.IsTrimmed title.toList := by
  obtain ⟨rest, -, rfl⟩ := classify_eq_heading.mp h
  rw [String.toList_ofList]
  exact Text.isTrimmed_trim rest

/-- **The order of the rules does not matter.**  No line has two marks; a line is what its mark
says, and other text if it has none; and rules in another order, be it of the keywords or of all,
make the same of it, with the same text and the same cells.  The title behind a keyword is
trimmed. -/
theorem classify_by_marks (rs : List Rule) (line : String) (reordered : rs.Perm rules) :
    (∀ m m' : Mark, m.On line → m'.On line → m = m') ∧
      (∀ m : Mark, (classify line).mark? = some m ↔ m.On line) ∧
      (classify line = other line ↔ ∀ m : Mark, ¬ m.On line) ∧
      classifyBy rs line = classify line ∧
      ∀ k title, classify line = heading k title → Text.IsTrimmed title.toList :=
  ⟨fun _ _ => Mark.On.unique, fun _ => mark?_classify, classify_eq_other,
    classifyBy_perm reordered line, fun _ _ => isTrimmed_title⟩

/-- The head of an outline, with the rules the other way round: a scenario's keyword is tried
first. -/
theorem classify_by_marks_backwards :
    let line := "Scenario Outline:  sums "
    rules.reverse.Perm rules ∧ (Mark.keyword .outline).On line ∧
      classify line = heading .outline "sums" ∧
      (∀ m m' : Mark, m.On line → m'.On line → m = m') ∧
      (∀ m : Mark, (classify line).mark? = some m ↔ m.On line) ∧
      (classify line = other line ↔ ∀ m : Mark, ¬ m.On line) ∧
      classifyBy rules.reverse line = classify line ∧
      ∀ k title, classify line = heading k title → Text.IsTrimmed title.toList := by
  intro line
  have hperm : rules.reverse.Perm rules := rules.reverse_perm
  exact ⟨hperm, by decide +kernel, by decide +kernel, classify_by_marks rules.reverse line hperm⟩

end FeatureLint.Line
