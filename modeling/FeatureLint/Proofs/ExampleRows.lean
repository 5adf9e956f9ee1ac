import FeatureLint.Feature.Outline
import Mathlib.Data.Nat.Count

/-!
# Which lines count

`Feature/Outline.lean` counts scenarios with a `Position` that it carries from line to line.  This
file says what the count is without one, by looking back from each line.  A row counts if the last
examples line above it belongs to an outline (the last line above *that* line that opens a scenario
or an outline opens an outline), if nothing since then has ended the table, and if some other row
stands in between, which is then the one that names the columns.

The two are joined by `Describes`: what a position knows is what looking back finds.  It holds above
the first line, and `Describes.next` carries it past a line.  The one fact that looking back does
not show is `Describes.sound`: inside a table of examples an outline is always open.  Without it an
examples line that belongs to no outline could leave a table open.

* `describes_after`: the position above a line describes the lines above it.
* `count_ofLines`: the count, as two numbers of lines.
* `mem_rowsFrom`, `feature_ofLines`: the rows and the description, by the numbers of lines.
-/

namespace FeatureLint

namespace Line

def isFeature : Line → Bool
  | heading .feature _ => true
  | _ => false

def isScenario : Line → Bool
  | heading .scenario _ => true
  | _ => false

def isOutline : Line → Bool
  | heading .outline _ => true
  | _ => false

def isExamples : Line → Bool
  | heading .examples _ => true
  | _ => false

def isRow : Line → Bool
  | row .. => true
  | _ => false

/-- Whether a line opens a scenario or a scenario outline. -/
def isHead (line : Line) : Bool := line.isScenario || line.isOutline

/-- Whether a table of examples goes on at a line: a row, a tag, a comment or a feature line. -/
def keepsTable : Line → Bool
  | row .. | remark _ | heading .feature _ => true
  | _ => false

theorem not_isExamples_of_keepsTable {line : Line} (h : line.keepsTable = true) :
    line.isExamples = false := by
  cases line with
  | heading k title => cases k <;> simp_all [keepsTable, isExamples]
  | _ => rfl

theorem not_isHead_of_keepsTable {line : Line} (h : line.keepsTable = true) :
    line.isHead = false := by
  cases line with
  | heading k title => cases k <;> simp_all [keepsTable, isHead, isScenario, isOutline]
  | _ => rfl

theorem not_isHead_of_isExamples {line : Line} (h : line.isExamples = true) :
    line.isHead = false := by
  cases line with
  | heading k title => cases k <;> simp_all [isExamples, isHead, isScenario, isOutline]
  | _ => rfl

end Line

/-! ### Looking back -/

/-- Line `i`, counted from zero, is one of which `P` holds. -/
def Holds (P : Line → Bool) (lines : List Line) (i : Nat) : Prop := ∃ line ∈ lines[i]?, P line

/-- Line `i` is the last one above line `n` of which `P` holds. -/
def LastAbove (P : Line → Bool) (lines : List Line) (n i : Nat) : Prop :=
  Holds P lines i ∧ ∀ j < n, i < j → ¬ Holds P lines j

/-- The last line above line `n` that opens a scenario or an outline opens an outline. -/
def UnderOutline (lines : List Line) (n : Nat) : Prop :=
  ∃ h < n, LastAbove Line.isHead lines n h ∧ Holds Line.isOutline lines h

/-- Line `e` is the last examples line above line `n`, it belongs to an outline, and the table goes
on at every line in between. -/
def TableSince (lines : List Line) (n e : Nat) : Prop :=
  LastAbove Line.isExamples lines n e ∧ UnderOutline lines e ∧
    ∀ j < n, e < j → Holds Line.keepsTable lines j

/-- Line `n` stands in a table of examples, or would as a row. -/
def InTable (lines : List Line) (n : Nat) : Prop := ∃ e < n, TableSince lines n e

/-- Line `n` stands in a table of examples, and a row of the table stands above it. -/
def InBody (lines : List Line) (n : Nat) : Prop :=
  ∃ e < n, TableSince lines n e ∧ ∃ j < n, e < j ∧ Holds Line.isRow lines j

/-- Line `n` is a row with an example. -/
def IsExample (lines : List Line) (n : Nat) : Prop := Holds Line.isRow lines n ∧ InBody lines n

instance (P : Line → Bool) (lines : List Line) : DecidablePred (Holds P lines) := fun i =>
  inferInstanceAs (Decidable (∃ line ∈ lines[i]?, P line))

instance (P : Line → Bool) (lines : List Line) (n : Nat) : DecidablePred (LastAbove P lines n) :=
  fun i => inferInstanceAs (Decidable (Holds P lines i ∧ ∀ j < n, i < j → ¬ Holds P lines j))

instance (lines : List Line) : DecidablePred (UnderOutline lines) := fun n =>
  inferInstanceAs (Decidable (∃ h < n, LastAbove Line.isHead lines n h ∧
    Holds Line.isOutline lines h))

instance (lines : List Line) (n : Nat) : DecidablePred (TableSince lines n) := fun e =>
  inferInstanceAs (Decidable (LastAbove Line.isExamples lines n e ∧ UnderOutline lines e ∧
    ∀ j < n, e < j → Holds Line.keepsTable lines j))

instance (lines : List Line) : DecidablePred (InBody lines) := fun n =>
  inferInstanceAs (Decidable (∃ e < n, TableSince lines n e ∧
    ∃ j < n, e < j ∧ Holds Line.isRow lines j))

instance (lines : List Line) : DecidablePred (IsExample lines) := fun n =>
  inferInstanceAs (Decidable (Holds Line.isRow lines n ∧ InBody lines n))

/-- A feature line in the middle of a table leaves the table as it is. -/
example : IsExample [.heading .outline "o", .heading .examples "", .row "|a|" ["a"],
    .heading .feature "f", .row "|1|" ["1"]] 4 := by decide

/-! ### One line further -/

section Step

variable {lines : List Line} {line : Line} {n : Nat}

theorem holds_iff {P : Line → Bool} (hline : lines[n]? = some line) :
    Holds P lines n ↔ P line := by
  simp [Holds, hline]

theorem lastAbove_self {P : Line → Bool} : LastAbove P lines (n + 1) n ↔ Holds P lines n := by
  constructor
  · exact fun h => h.1
  · exact fun h => ⟨h, fun j hj hnj => by omega⟩

theorem lastAbove_succ {P : Line → Bool} {i : Nat} (hi : i < n) :
    LastAbove P lines (n + 1) i ↔ LastAbove P lines n i ∧ ¬ Holds P lines n := by
  constructor
  · rintro ⟨hP, hlast⟩
    exact ⟨⟨hP, fun j hj => hlast j (by omega)⟩, hlast n (by omega) hi⟩
  · rintro ⟨⟨hP, hlast⟩, hn⟩
    refine ⟨hP, fun j hj hij => ?_⟩
    rcases Nat.lt_succ_iff_lt_or_eq.mp hj with hj | rfl
    · exact hlast j hj hij
    · exact hn

theorem underOutline_succ : UnderOutline lines (n + 1) ↔
    Holds Line.isOutline lines n ∨ (UnderOutline lines n ∧ ¬ Holds Line.isHead lines n) := by
  rw [UnderOutline, Nat.exists_lt_succ_right, lastAbove_self, or_comm]
  refine or_congr ⟨And.right, ?_⟩ ⟨?_, ?_⟩
  · intro h
    obtain ⟨line, hline, ho⟩ := h
    exact ⟨⟨line, hline, by simp [Line.isHead, ho]⟩, ⟨line, hline, ho⟩⟩
  · rintro ⟨h, hh, hlast, ho⟩
    rw [lastAbove_succ hh] at hlast
    exact ⟨⟨h, hh, hlast.1, ho⟩, hlast.2⟩
  · rintro ⟨⟨h, hh, hlast, ho⟩, hn⟩
    exact ⟨h, hh, (lastAbove_succ hh).mpr ⟨hlast, hn⟩, ho⟩

theorem not_holds_isExamples (h : Holds Line.keepsTable lines n) :
    ¬ Holds Line.isExamples lines n := by
  obtain ⟨line, hline, hkeep⟩ := h
  rw [holds_iff hline, Line.not_isExamples_of_keepsTable hkeep]
  simp

theorem tableSince_self :
    TableSince lines (n + 1) n ↔ Holds Line.isExamples lines n ∧ UnderOutline lines n := by
  rw [TableSince, lastAbove_self]
  constructor
  · exact fun h => ⟨h.1, h.2.1⟩
  · exact fun h => ⟨h.1, h.2, fun j hj hnj => by omega⟩

theorem tableSince_succ {e : Nat} (he : e < n) : TableSince lines (n + 1) e ↔
    TableSince lines n e ∧ Holds Line.keepsTable lines n := by
  constructor
  · rintro ⟨hlast, ho, hkeep⟩
    exact ⟨⟨((lastAbove_succ he).mp hlast).1, ho, fun j hj => hkeep j (by omega)⟩,
      hkeep n (by omega) he⟩
  · rintro ⟨⟨hlast, ho, hkeep⟩, hn⟩
    refine ⟨(lastAbove_succ he).mpr ⟨hlast, not_holds_isExamples hn⟩, ho, ?_⟩
    intro j hj hej
    rcases Nat.lt_succ_iff_lt_or_eq.mp hj with hj | rfl
    · exact hkeep j hj hej
    · exact hn

theorem inTable_succ : InTable lines (n + 1) ↔
    (Holds Line.isExamples lines n ∧ UnderOutline lines n) ∨
      (InTable lines n ∧ Holds Line.keepsTable lines n) := by
  rw [InTable, Nat.exists_lt_succ_right, tableSince_self, or_comm]
  refine or_congr Iff.rfl ⟨?_, ?_⟩
  · rintro ⟨e, he, h⟩
    rw [tableSince_succ he] at h
    exact ⟨⟨e, he, h.1⟩, h.2⟩
  · rintro ⟨⟨e, he, h⟩, hn⟩
    exact ⟨e, he, (tableSince_succ he).mpr ⟨h, hn⟩⟩

theorem inBody_succ : InBody lines (n + 1) ↔
    Holds Line.keepsTable lines n ∧
      (InBody lines n ∨ (InTable lines n ∧ Holds Line.isRow lines n)) := by
  constructor
  · rintro ⟨e, he, htable, j, hj, hej, hrow⟩
    have hen : e < n := by omega
    rw [tableSince_succ hen] at htable
    refine ⟨htable.2, ?_⟩
    -- the row in between is the line above, or it is further up
    rcases Nat.lt_succ_iff_lt_or_eq.mp hj with hj | rfl
    · exact Or.inl ⟨e, hen, htable.1, j, hj, hej, hrow⟩
    · exact Or.inr ⟨⟨e, hen, htable.1⟩, hrow⟩
  · rintro ⟨hkeep, ⟨e, he, htable, j, hj, hej, hrow⟩ | ⟨⟨e, he, htable⟩, hrow⟩⟩
    · exact ⟨e, by omega, (tableSince_succ he).mpr ⟨htable, hkeep⟩, j, by omega, hej, hrow⟩
    · exact ⟨e, by omega, (tableSince_succ he).mpr ⟨htable, hkeep⟩, n, by omega, he, hrow⟩

end Step

/-! ### What a position knows -/

/-- The position `p` is what looking back from line `n` finds. -/
structure Describes (lines : List Line) (n : Nat) (p : Position) : Prop where
  isOpen : p.outlineOpen = true ↔ UnderOutline lines n
  inTable : p.zone.isTable = true ↔ InTable lines n
  inBody : p.zone = .body ↔ InBody lines n
  /-- A table of examples belongs to an outline that is still open. -/
  sound : p.zone.isTable = true → p.outlineOpen = true

theorem describes_zero (lines : List Line) : Describes lines 0 {} where
  isOpen := by simp [UnderOutline]
  inTable := by simp [InTable, Zone.isTable]
  inBody := by simp [InBody]
  sound := by simp [Zone.isTable]

section Next

variable {p : Position}

theorem outlineOpen_next (line : Line) : (p.next line).outlineOpen = true ↔
    line.isOutline = true ∨ (p.outlineOpen = true ∧ ¬ line.isHead = true) := by
  cases line with
  | heading k title =>
    cases k <;> simp [Position.next, Line.isOutline, Line.isHead, Line.isScenario]
    split <;> simp_all
  | row text cells =>
    simp only [Position.next]
    split <;> simp [Line.isOutline, Line.isHead, Line.isScenario]
  | remark text => simp [Position.next, Line.isOutline, Line.isHead, Line.isScenario]
  | blank =>
    simp only [Position.next]
    split <;> simp [Line.isOutline, Line.isHead, Line.isScenario]
  | other text =>
    simp only [Position.next]
    split <;> simp [Line.isOutline, Line.isHead, Line.isScenario]

/-- A table stays open past an examples line only if an outline is open, so the zone alone does not
tell whether a table is open below a line. -/
theorem isTable_next (sound : p.zone.isTable = true → p.outlineOpen = true) (line : Line) :
    (p.next line).zone.isTable = true ↔
      (line.isExamples = true ∧ p.outlineOpen = true) ∨
        (p.zone.isTable = true ∧ line.keepsTable = true) := by
  cases line with
  | heading k title =>
    cases k with
    | examples =>
      by_cases hopen : p.outlineOpen = true
      · simp [Position.next, hopen, Line.isExamples, Zone.isTable]
      · simp [Position.next, hopen, mt sound hopen, Line.isExamples, Line.keepsTable]
    | feature => simp [Position.next, Line.isExamples, Line.keepsTable]
    | outline => simp [Position.next, Line.isExamples, Line.keepsTable, Zone.isTable]
    | scenario => simp [Position.next, Line.isExamples, Line.keepsTable, Zone.isTable]
  | row text cells =>
    simp only [Position.next]
    split <;> simp_all [Line.isExamples, Line.keepsTable, Zone.isTable]
  | remark text => simp [Position.next, Line.isExamples, Line.keepsTable]
  | blank =>
    simp only [Position.next]
    split <;> simp_all [Line.isExamples, Line.keepsTable, Zone.isTable]
  | other text =>
    simp only [Position.next]
    split <;> simp_all [Line.isExamples, Line.keepsTable, Zone.isTable]

theorem zone_next_eq_body (sound : p.zone.isTable = true → p.outlineOpen = true) (line : Line) :
    (p.next line).zone = .body ↔
      line.keepsTable = true ∧
        (p.zone = .body ∨ (p.zone.isTable = true ∧ line.isRow = true)) := by
  cases line with
  | heading k title =>
    cases k with
    | examples =>
      by_cases hopen : p.outlineOpen = true
      · simp [Position.next, hopen, Line.keepsTable]
      · have hbody : p.zone ≠ .body := fun hbody => mt sound hopen (by rw [hbody]; rfl)
        simp [Position.next, hopen, hbody, Line.keepsTable]
    | feature => simp [Position.next, Line.isRow, Line.keepsTable]
    | outline => simp [Position.next, Line.keepsTable]
    | scenario => simp [Position.next, Line.keepsTable]
  | row text cells =>
    simp only [Position.next]
    cases hz : p.zone <;> simp [hz, Line.isRow, Line.keepsTable, Zone.isTable]
  | remark text => simp [Position.next, Line.isRow, Line.keepsTable]
  | blank =>
    simp only [Position.next]
    cases hz : p.zone <;> simp [hz, Line.keepsTable, Zone.isTable]
  | other text =>
    simp only [Position.next]
    cases hz : p.zone <;> simp [hz, Line.keepsTable, Zone.isTable]

end Next

/-- **A position goes on describing what is above it** as it moves past a line. -/
theorem Describes.next {lines : List Line} {n : Nat} {p : Position} {line : Line}
    (h : Describes lines n p) (hline : lines[n]? = some line) :
    Describes lines (n + 1) (p.next line) where
  isOpen := by
    rw [outlineOpen_next, underOutline_succ, holds_iff hline, holds_iff hline, h.isOpen]
  inTable := by
    rw [isTable_next h.sound, inTable_succ, holds_iff hline, holds_iff hline, h.isOpen, h.inTable]
  inBody := by
    rw [zone_next_eq_body h.sound, inBody_succ, holds_iff hline, holds_iff hline, h.inTable,
      h.inBody]
  sound := by
    intro htable
    rw [isTable_next h.sound] at htable
    rw [outlineOpen_next]
    -- an examples line opens no scenario, and neither does a line at which a table goes on
    rcases htable with ⟨hexamples, hopen⟩ | ⟨htable, hkeep⟩
    · exact Or.inr ⟨hopen, by simp [Line.not_isHead_of_isExamples hexamples]⟩
    · exact Or.inr ⟨h.sound htable, by simp [Line.not_isHead_of_keepsTable hkeep]⟩

/-- **The position above a line describes the lines above it.** -/
theorem describes_after (lines : List Line) {n : Nat} (hn : n ≤ lines.length) :
    Describes lines n (Position.after {} (lines.take n)) := by
  induction n with
  | zero => exact describes_zero lines
  | succ n ih =>
    have hline : lines[n]? = some lines[n] := List.getElem?_eq_getElem hn
    rw [List.take_succ_eq_append_getElem hn, Position.after, List.foldl_append]
    exact (ih (by omega)).next hline

/-! ### Counting -/

theorem countP_eq_count {α : Type} (P : α → Bool) (l : List α) :
    l.countP P = Nat.count (fun i => ∃ a ∈ l[i]?, P a) l.length := by
  induction l with
  | nil => rfl
  | cons a l ih =>
    rw [List.countP_cons, List.length_cons, Nat.count_succ', ih]
    simp

theorem count_or {P Q R : Nat → Prop} [DecidablePred P] [DecidablePred Q] [DecidablePred R]
    (n : Nat) (hor : ∀ i < n, R i ↔ P i ∨ Q i) (hand : ∀ i < n, P i → ¬ Q i) :
    Nat.count R n = Nat.count P n + Nat.count Q n := by
  induction n with
  | zero => rfl
  | succ n ih =>
    have hn := hor n (by omega)
    have hn' := hand n (by omega)
    rw [Nat.count_succ, Nat.count_succ, Nat.count_succ,
      ih (fun i hi => hor i (by omega)) (fun i hi => hand i (by omega))]
    by_cases hP : P n
    · simp [hn, hP, hn' hP]
      omega
    · simp [hn, hP]
      omega

theorem getElem?_annotate (p : Position) (lines : List Line) (i : Nat) :
    (Position.annotate p lines)[i]? =
      lines[i]?.map fun line => (p.after (lines.take i), line) := by
  induction lines generalizing p i with
  | nil => simp
  | cons line lines ih =>
    cases i with
    | zero => simp [Position.after]
    | succ i => simp [ih, Position.after]

theorem length_annotate (p : Position) (lines : List Line) :
    (Position.annotate p lines).length = lines.length := by
  induction lines generalizing p with
  | nil => rfl
  | cons line lines ih => simp [ih]

namespace Outline

/-- **The count of scenarios**: the lines that open a scenario, and the rows with an example. -/
theorem count_ofLines (lines : List Line) :
    (ofLines lines).count =
      Nat.count (Holds Line.isScenario lines) lines.length +
        Nat.count (IsExample lines) lines.length := by
  rw [ofLines, countP_eq_count, length_annotate]
  apply count_or
  · intro i hi
    have hline : lines[i]? = some lines[i] := List.getElem?_eq_getElem hi
    have hbody := (describes_after lines (Nat.le_of_lt hi)).inBody
    rw [IsExample, holds_iff hline, holds_iff hline, ← hbody, getElem?_annotate, hline]
    cases lines[i] with
    | heading k title => cases k <;> simp [Position.counts, Line.isScenario, Line.isRow]
    | row text cells => simp [Position.counts, Line.isScenario, Line.isRow]
    | remark text => simp [Position.counts, Line.isScenario, Line.isRow]
    | blank => simp [Position.counts, Line.isScenario, Line.isRow]
    | other text => simp [Position.counts, Line.isScenario, Line.isRow]
  · rintro i hi ⟨line, hline, hscenario⟩ ⟨hrow, -⟩
    rw [holds_iff hline] at hrow
    cases line <;> simp_all [Line.isScenario, Line.isRow]

/-! ### Rows, descriptions, names -/

theorem cells?_eq_some {line : Line} {cells : List String} :
    line.cells? = some cells ↔ ∃ text, line = .row text cells := by
  cases line <;> simp [Line.cells?]

theorem mem_rowsFrom {first : Nat} {lines : List Line} {r : Row} :
    r ∈ rowsFrom first lines ↔
      ∃ i text, lines[i]? = some (.row text r.cells) ∧ r.line = first + i := by
  simp only [rowsFrom, List.mem_filterMap, Option.map_eq_some_iff, Prod.exists,
    List.mk_mem_zipIdx_iff_le_and_getElem?_sub, cells?_eq_some]
  constructor
  · rintro ⟨line, number, ⟨hle, hline⟩, cells, ⟨text, rfl⟩, rfl⟩
    exact ⟨number - first, text, hline, by simp; omega⟩
  · rintro ⟨i, text, hline, hnumber⟩
    refine ⟨.row text r.cells, r.line, ⟨by omega, ?_⟩, r.cells, ⟨text, rfl⟩, rfl⟩
    rw [hnumber, Nat.add_sub_cancel_left, hline]

theorem rowsFrom_cons (first : Nat) (line : Line) (lines : List Line) :
    rowsFrom first (line :: lines) =
      (line.cells?.map (Row.mk first)).toList ++ rowsFrom (first + 1) lines := by
  rw [rowsFrom, List.zipIdx_cons, List.filterMap_cons]
  cases hcells : line.cells? <;> simp [hcells, rowsFrom]

theorem rowsFrom_pairwise (first : Nat) (lines : List Line) :
    (rowsFrom first lines).Pairwise fun r r' => r.line < r'.line := by
  induction lines generalizing first with
  | nil => exact List.Pairwise.nil
  | cons line lines ih =>
    rw [rowsFrom_cons, List.pairwise_append]
    refine ⟨?_, ih (first + 1), ?_⟩
    · cases line.cells? <;> simp
    · intro r hr r' hr'
      obtain ⟨cells, -, rfl⟩ := Option.map_eq_some_iff.mp (Option.mem_toList.mp hr)
      obtain ⟨i, text, -, hnumber⟩ := mem_rowsFrom.mp hr'
      simp only
      omega

theorem feature?_eq_some {line : Line} {title : String} :
    line.feature? = some title ↔ line = .heading .feature title := by
  fun_cases Line.feature? line <;> simp_all

theorem feature?_eq_none {line : Line} : line.feature? = none ↔ ¬ line.isFeature = true := by
  fun_cases Line.feature? line <;> simp_all [Line.isFeature]

theorem feature_ofLines {lines : List Line} {title : String} :
    (ofLines lines).feature = some title ↔
      ∃ i, lines[i]? = some (.heading .feature title) ∧
        ∀ j < i, ¬ Holds Line.isFeature lines j := by
  rw [ofLines, List.findSome?_eq_some_iff]
  constructor
  · rintro ⟨above, line, below, rfl, hline, habove⟩
    refine ⟨above.length, ?_, ?_⟩
    · simp [feature?_eq_some.mp hline]
    · rintro j hj ⟨other, hother, hfeature⟩
      rw [List.getElem?_append_left hj] at hother
      exact feature?_eq_none.mp (habove other (List.mem_of_getElem? hother)) hfeature
  · rintro ⟨i, hi, hfirst⟩
    obtain ⟨hlt, hline⟩ := List.getElem?_eq_some_iff.mp hi
    refine ⟨lines.take i, lines[i], lines.drop (i + 1), ?_, ?_, ?_⟩
    · simp
    · rw [hline, feature?_eq_some]
    · intro other hother
      obtain ⟨j, hj, rfl⟩ := List.mem_take_iff_getElem.mp hother
      rw [feature?_eq_none]
      exact fun hfeature => hfirst j (by omega) ⟨_, List.getElem?_eq_getElem (by omega), hfeature⟩

theorem feature_ofLines_eq_none {lines : List Line} :
    (ofLines lines).feature = none ↔ ∀ i, ¬ Holds Line.isFeature lines i := by
  rw [ofLines, List.findSome?_eq_none_iff]
  constructor
  · rintro hnone i ⟨line, hline, hfeature⟩
    exact feature?_eq_none.mp (hnone line (List.mem_of_getElem? hline)) hfeature
  · intro hnone line hline
    obtain ⟨i, hi⟩ := List.getElem?_of_mem hline
    rw [feature?_eq_none]
    exact fun hfeature => hnone i ⟨line, hi, hfeature⟩

theorem names_ofLines (lines : List Line) :
    (ofLines lines).names = (lines.filter Line.isHead).map Line.text := by
  have hname : ∀ line : Line,
      line.name? = if line.isHead then some line.text else none := by
    intro line
    fun_cases Line.name? line <;> simp_all [Line.isHead, Line.isScenario, Line.isOutline, Line.text]
  show lines.filterMap Line.name? = _
  induction lines with
  | nil => rfl
  | cons line lines ih =>
    rw [List.filterMap_cons, List.filter_cons, hname, ih]
    by_cases hhead : line.isHead = true
    · simp [hhead]
    · simp [hhead]

/-- **What the outline of a file is**, told by the numbers of its lines. -/
theorem read_by_lines (texts : List String) :
    let lines := texts.map Line.read
    let outline := read texts
    outline.count =
        Nat.count (Holds Line.isScenario lines) lines.length +
          Nat.count (IsExample lines) lines.length ∧
      outline.names = (lines.filter Line.isHead).map Line.text ∧
      (∀ title, outline.feature = some title ↔
        ∃ i, lines[i]? = some (.heading .feature title) ∧
          ∀ j < i, ¬ Holds Line.isFeature lines j) ∧
      (outline.feature = none ↔ ∀ i, ¬ Holds Line.isFeature lines i) ∧
      (∀ r, r ∈ outline.rows ↔
        ∃ i text, lines[i]? = some (.row text r.cells) ∧ r.line = 1 + i) ∧
      outline.rows.Pairwise fun r r' => r.line < r'.line := by
  intro lines outline
  exact ⟨count_ofLines lines, names_ofLines lines, fun _ => feature_ofLines,
    feature_ofLines_eq_none, fun _ => mem_rowsFrom, rowsFrom_pairwise 1 lines⟩

end Outline

end FeatureLint
