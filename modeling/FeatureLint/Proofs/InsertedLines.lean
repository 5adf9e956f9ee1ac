import FeatureLint.Proofs.JoinedOutlines
import FeatureLint.Proofs.LineMarks

/-!
# Lines that are put into a file

Two readings are compared, one of a file and one of the same file with more lines in it.  An `Edit`
is a line that was there or a line that was added, so a list of edits holds both files, line by
line, and `AddedWhere` says what was added below which lines.

Some lines leave everything as it is (`Position.Idle`): tags and comments wherever they stand, and
feature lines below another one.  Adding such lines moves the rows further down, each by the lines
that were added above it (`rowsFrom_new`), and changes nothing else.  The two readings are at the
same position all the time, although their numbers of lines are not the same
(`countP_annotate_new`).

* `feature_new`: the first feature line is the same, if no other one was added above it.
* `read_new_unseen`: **remarks and further feature lines are not seen.**
-/

namespace FeatureLint

/-- A member of a list to which others were added: one that was there before, or one of the
others. -/
inductive Edit (α : Type) where
  | kept (a : α)
  | added (a : α)
  deriving DecidableEq, Repr

namespace Edit

variable {α β : Type} {e : Edit α} {es : List (Edit α)} {P Q : List (Edit α) → α → Prop}

def item : Edit α → α
  | kept a => a
  | added a => a

def kept? : Edit α → Option α
  | kept a => some a
  | added _ => none

def map (f : α → β) : Edit α → Edit β
  | kept a => kept (f a)
  | added a => added (f a)

def old (es : List (Edit α)) : List α := es.filterMap kept?

def new (es : List (Edit α)) : List α := es.map item

/-- How many lines were added above line `n` of the old list.  Lines are counted from one. -/
def addedAbove : List (Edit α) → Nat → Nat
  | [], _ => 0
  | added _ :: es, n => addedAbove es n + 1
  | kept _ :: es, n => if n ≤ 1 then 0 else addedAbove es (n - 1)

/-- Whatever was added, `P` holds of it and of all that stands above it. -/
def AddedWhere (P : List (Edit α) → α → Prop) (es : List (Edit α)) : Prop :=
  ∀ above a below, es = above ++ added a :: below → P above a

/-! ### Lists of edits -/

@[simp] theorem old_nil : old ([] : List (Edit α)) = [] := rfl

@[simp] theorem old_kept (a : α) (es : List (Edit α)) : old (kept a :: es) = a :: old es := rfl

@[simp] theorem old_added (a : α) (es : List (Edit α)) : old (added a :: es) = old es := rfl

@[simp] theorem new_nil : new ([] : List (Edit α)) = [] := rfl

@[simp] theorem new_cons (e : Edit α) (es : List (Edit α)) : new (e :: es) = e.item :: new es := rfl

@[simp] theorem item_map (f : α → β) (e : Edit α) : (e.map f).item = f e.item := by cases e <;> rfl

@[simp] theorem old_map (f : α → β) (es : List (Edit α)) :
    old (es.map (map f)) = (old es).map f := by
  induction es with
  | nil => rfl
  | cons e es ih => cases e <;> simp [map, ih]

@[simp] theorem new_map (f : α → β) (es : List (Edit α)) :
    new (es.map (map f)) = (new es).map f := by
  simp [new]

@[simp] theorem addedAbove_map (f : α → β) (es : List (Edit α)) (n : Nat) :
    addedAbove (es.map (map f)) n = addedAbove es n := by
  induction es generalizing n with
  | nil => rfl
  | cons e es ih => cases e <;> simp [map, addedAbove, ih]

theorem AddedWhere.imp (h : AddedWhere P es) (himp : ∀ above a, P above a → Q above a) :
    AddedWhere Q es := fun above a below hes => himp above a (h above a below hes)

@[simp] theorem addedWhere_nil : AddedWhere P [] := by
  intro above a below hes
  simp at hes

theorem addedWhere_cons :
    AddedWhere P (e :: es) ↔
      (∀ a, e = added a → P [] a) ∧ AddedWhere (fun above => P (e :: above)) es := by
  constructor
  · intro h
    refine ⟨?_, ?_⟩
    · rintro a rfl
      exact h [] a es rfl
    · rintro above a below rfl
      exact h (e :: above) a below rfl
  · rintro ⟨htop, hrest⟩ above a below hes
    cases above with
    | nil =>
      obtain ⟨rfl, -⟩ := List.cons.inj hes
      exact htop a rfl
    | cons e' above =>
      obtain ⟨rfl, hes'⟩ := List.cons.inj hes
      exact hrest above a below hes'

@[simp] theorem addedWhere_kept {a : α} :
    AddedWhere P (kept a :: es) ↔ AddedWhere (fun above => P (kept a :: above)) es := by
  simp [addedWhere_cons]

@[simp] theorem addedWhere_added {a : α} :
    AddedWhere P (added a :: es) ↔ P [] a ∧ AddedWhere (fun above => P (added a :: above)) es := by
  simp [addedWhere_cons]

instance decidableAddedWhere : (es : List (Edit α)) → (P : List (Edit α) → α → Prop) →
    [∀ above a, Decidable (P above a)] → Decidable (AddedWhere P es)
  | [], _, _ => isTrue addedWhere_nil
  | kept a :: es, P, _ =>
    have := decidableAddedWhere es fun above => P (kept a :: above)
    decidable_of_iff _ addedWhere_kept.symm
  | added a :: es, P, _ =>
    have := decidableAddedWhere es fun above => P (added a :: above)
    decidable_of_iff _ addedWhere_added.symm

theorem addedWhere_map {f : α → β} {P : List (Edit β) → β → Prop} :
    AddedWhere P (es.map (map f)) ↔
      AddedWhere (fun above a => P (above.map (map f)) (f a)) es := by
  induction es generalizing P with
  | nil => simp
  | cons e es ih => cases e <;> simp [map, ih]

theorem filterMap_new {f : α → Option β} (h : AddedWhere (fun _ a => f a = none) es) :
    (new es).filterMap f = (old es).filterMap f := by
  induction es with
  | nil => rfl
  | cons e es ih =>
    cases e with
    | kept a =>
      rw [addedWhere_kept] at h
      rw [new_cons, old_kept, List.filterMap_cons, List.filterMap_cons, ih h]
      rfl
    | added a =>
      rw [addedWhere_added] at h
      rw [new_cons, old_added, item, List.filterMap_cons_none h.1, ih h.2]

end Edit

open Edit

/-! ### Positions -/

namespace Position

variable {p : Position} {line : Line} {es : List (Edit Line)}

/-- A line does nothing at a position: the position below it is the same, and it does not count. -/
def Idle (p : Position) (line : Line) : Prop := p.next line = p ∧ p.counts line = false

/-- **Lines that do nothing leave the count as it is.** -/
theorem countP_annotate_new
    (h : AddedWhere (fun above line => (p.after (old above)).Idle line) es) :
    (annotate p (new es)).countP (fun (p, line) => p.counts line) =
      (annotate p (old es)).countP (fun (p, line) => p.counts line) := by
  -- for every position, since the two readings are at one and the same above each line they share
  induction es generalizing p with
  | nil => rfl
  | cons e es ih =>
    cases e with
    | kept line =>
      rw [addedWhere_kept] at h
      rw [new_cons, old_kept, annotate_cons, annotate_cons, List.countP_cons, List.countP_cons,
        item, ih h]
    | added line =>
      rw [addedWhere_added] at h
      obtain ⟨⟨hnext, hcounts⟩, hrest⟩ := h
      have hstay : p.next line = p := hnext
      rw [new_cons, old_added, annotate_cons, item, hstay, List.countP_cons_of_neg, ih hrest]
      simpa [after] using hcounts

end Position

/-! ### The parts of an outline -/

namespace Outline

variable {es : List (Edit Line)}

theorem rowsFrom_succ (first : Nat) (lines : List Line) :
    rowsFrom (first + 1) lines = (rowsFrom first lines).map (Row.down 1) := by
  refine filterMap_zipIdx_add ?_ lines first
  intro line i
  rw [Option.map_map]
  rfl

/-- **Rows move down** by the lines that were added above them. -/
theorem rowsFrom_new (h : AddedWhere (fun _ line => line.cells? = none) es) (first : Nat) :
    rowsFrom (first + 1) (new es) =
      (rowsFrom (first + 1) (old es)).map fun r => r.down (addedAbove es (r.line - first)) := by
  induction es generalizing first with
  | nil => rfl
  | cons e es ih =>
    cases e with
    | kept line =>
      rw [addedWhere_kept] at h
      rw [new_cons, old_kept, rowsFrom_cons, rowsFrom_cons, List.map_append, ih h (first + 1)]
      congr 1
      · -- the line itself: nothing was added above it
        have htop : addedAbove (kept line :: es) 1 = 0 := if_pos (Nat.le_refl 1)
        cases hcells : line.cells? with
        | none => simp [item, hcells]
        | some cells => simp [item, hcells, Row.down, htop]
      · refine List.map_congr_left fun r hr => ?_
        obtain ⟨i, text, -, hnumber⟩ := mem_rowsFrom.mp hr
        have hbelow : ¬ r.line - first ≤ 1 := by omega
        rw [addedAbove, if_neg hbelow, Nat.sub_sub]
    | added line =>
      rw [addedWhere_added] at h
      rw [new_cons, old_added, rowsFrom_cons, item, h.1, ih h.2 (first + 1),
        rowsFrom_succ (first + 1), List.map_map]
      refine List.map_congr_left fun r hr => ?_
      simp only [Function.comp, Row.down, addedAbove, Nat.add_sub_add_right, Row.mk.injEq, and_true]
      omega

theorem rows_new (h : AddedWhere (fun _ line => line.cells? = none) es) :
    (ofLines (new es)).rows =
      (ofLines (old es)).rows.map fun r => r.down (addedAbove es r.line) :=
  rowsFrom_new h 0

theorem names_new (h : AddedWhere (fun _ line => line.name? = none) es) :
    (ofLines (new es)).names = (ofLines (old es)).names := filterMap_new h

theorem feature_new
    (h : AddedWhere (fun above line =>
      line.isFeature = false ∨ ∃ l ∈ old above, l.isFeature = true) es) :
    (ofLines (new es)).feature = (ofLines (old es)).feature := by
  show (new es).findSome? Line.feature? = (old es).findSome? Line.feature?
  induction es with
  | nil => rfl
  | cons e es ih =>
    cases e with
    | kept line =>
      rw [addedWhere_kept] at h
      rw [new_cons, old_kept, List.findSome?_cons, List.findSome?_cons, item]
      -- below the first feature line there is nothing left to compare
      cases hfeature : line.feature? with
      | some title => rfl
      | none =>
        refine ih (h.imp fun above a ha => ?_)
        simpa [feature?_eq_none.mp hfeature] using ha
    | added line =>
      rw [addedWhere_added] at h
      have hline : line.feature? = none := by
        rw [feature?_eq_none]
        simpa using h.1
      rw [new_cons, old_added, List.findSome?_cons, item, hline]
      exact ih h.2

theorem count_new
    (h : AddedWhere (fun above line => (Position.after {} (old above)).Idle line) es) :
    (ofLines (new es)).count = (ofLines (old es)).count := Position.countP_annotate_new h

theorem read_old (es : List (Edit String)) :
    read (old es) = ofLines (old (es.map (map Line.read))) := by rw [old_map, read]

theorem read_new (es : List (Edit String)) :
    read (new es) = ofLines (new (es.map (map Line.read))) := by rw [new_map, read]

end Outline

/-! ### Lines that are not seen -/

namespace Text

def IsRemark (text : String) : Prop :=
  (strip text).toList.head? = some '#' ∨ (strip text).toList.head? = some '@'

def IsFeature (text : String) : Prop := Keyword.feature.text.toList <+: (strip text).toList

instance : DecidablePred IsRemark := fun text =>
  inferInstanceAs (Decidable ((strip text).toList.head? = some '#' ∨
    (strip text).toList.head? = some '@'))

instance : DecidablePred IsFeature := fun text =>
  inferInstanceAs (Decidable (Keyword.feature.text.toList <+: (strip text).toList))

end Text

namespace Line

variable {line : Line} {text : String}

/-- Whether a line says nothing about scenarios and tables: a remark or a feature line. -/
def isAside : Line → Bool
  | remark _ | heading .feature _ => true
  | _ => false

theorem name?_of_isAside (h : line.isAside = true) : line.name? = none := by
  fun_cases isAside line <;> simp_all [isAside, name?]

theorem cells?_of_isAside (h : line.isAside = true) : line.cells? = none := by
  fun_cases isAside line <;> simp_all [isAside, cells?]

theorem idle_of_isAside (h : line.isAside = true) (p : Position) : p.Idle line := by
  fun_cases isAside line <;> simp_all [isAside, Position.Idle, Position.next, Position.counts]

theorem read_of_isRemark (h : Text.IsRemark text) : read text = remark (Text.strip text) :=
  classify_of_hash_or_at h

theorem isFeature_read (h : Text.IsFeature text) : (read text).isFeature = true := by
  obtain ⟨rest, hrest⟩ := h
  rw [read, classify_of_keyword hrest.symm]
  rfl

theorem isAside_of_isFeature (h : line.isFeature = true) : line.isAside = true := by
  fun_cases isFeature line <;> simp_all [isFeature, isAside]

end Line

namespace Outline

/-- A text is not seen below others: it is a remark, or a feature line below another one. -/
def Unseen (above : List String) (text : String) : Prop :=
  Text.IsRemark text ∨ Text.IsFeature text ∧ ∃ t ∈ above, Text.IsFeature t

instance (above : List String) : DecidablePred (Unseen above) := fun text =>
  inferInstanceAs (Decidable (Text.IsRemark text ∨
    Text.IsFeature text ∧ ∃ t ∈ above, Text.IsFeature t))

section Unseen

variable {above : List String} {text : String}

theorem Unseen.isAside (h : Unseen above text) : (Line.read text).isAside = true := by
  rcases h with h | ⟨h, -⟩
  · rw [Line.read_of_isRemark h]
    rfl
  · exact Line.isAside_of_isFeature (Line.isFeature_read h)

theorem Unseen.isFeature (h : Unseen above text) :
    (Line.read text).isFeature = false ∨ ∃ l ∈ above.map Line.read, l.isFeature = true := by
  rcases h with h | ⟨-, t, ht, hfeature⟩
  · rw [Line.read_of_isRemark h]
    exact Or.inl rfl
  · exact Or.inr ⟨_, List.mem_map_of_mem ht, Line.isFeature_read hfeature⟩

end Unseen

/-- **Remarks and further feature lines are not seen.**  Tags and comments may be added to a file
anywhere, and feature lines below the first one.  The description, the names and the count stay, and
so do the rows; each of them is further down by the number of lines that were added above it. -/
theorem read_new_unseen (es : List (Edit String))
    (unseen : AddedWhere (fun above text => Unseen (old above) text) es) :
    let before := read (old es)
    let after := read (new es)
    after.feature = before.feature ∧
      after.names = before.names ∧
      after.count = before.count ∧
      after.rows = before.rows.map fun r => r.down (addedAbove es r.line) := by
  have haside : AddedWhere (fun _ line => line.isAside = true) (es.map (map Line.read)) :=
    addedWhere_map.mpr (unseen.imp fun _ _ h => h.isAside)
  have hfeature : AddedWhere (fun above line =>
      line.isFeature = false ∨ ∃ l ∈ old above, l.isFeature = true) (es.map (map Line.read)) := by
    refine addedWhere_map.mpr (unseen.imp fun above text h => ?_)
    rw [old_map]
    exact h.isFeature
  intro before after
  simp only [before, after, read_old, read_new]
  refine ⟨feature_new hfeature, ?_, ?_, ?_⟩
  · exact names_new (haside.imp fun _ _ => Line.name?_of_isAside)
  · exact count_new (haside.imp fun _ _ h => Line.idle_of_isAside h _)
  · rw [rows_new (haside.imp fun _ _ => Line.cells?_of_isAside)]
    simp only [addedAbove_map]

/-- A remark above all, one between the head of a table and its rows, and a second feature line in
the middle of the table. -/
theorem read_new_unseen_in_table :
    let es : List (Edit String) :=
      [.added "# first", .kept "Feature: a", .kept "Scenario Outline: o", .kept "Examples:",
        .added "  @tag", .kept "| n |", .added "\tFeature: b", .kept "| 1 |", .kept "", .kept "||"]
    AddedWhere (fun above text => Unseen (old above) text) es ∧
      let before := read (old es)
      let after := read (new es)
      after.feature = before.feature ∧
        after.names = before.names ∧
        after.count = before.count ∧
        (after.rows = before.rows.map fun r => r.down (addedAbove es r.line)) ∧
        after.rows = [⟨6, ["n"]⟩, ⟨8, ["1"]⟩, ⟨10, [""]⟩] := by
  intro es
  have hunseen : AddedWhere (fun above text => Unseen (old above) text) es := by decide +kernel
  obtain ⟨hfeature, hnames, hcount, hrows⟩ := read_new_unseen es hunseen
  exact ⟨hunseen, hfeature, hnames, hcount, hrows, by decide +kernel⟩

end Outline

end FeatureLint
