import FeatureLint.Proofs.InsertedLines

/-!
# Text that is put into a file

A blank line, or any other text, ends a table of examples.  If such lines are added to a file, the
reading of the new file can be outside of a table where the reading of the old one is still inside,
and it stays so until a line opens the next table or the next scenario, which brings the two
together again.  `Position.Lags` is all that can come between the two readings: an outline is open
in both or in neither, and the zones are the same or the new reading has left a table.  Lines that
are in both files keep it (`Lags.next`), and so does text that is in the new file alone
(`Lags.next_prose`).  A row that counts for the new reading then counts for the old one too, so the
count cannot grow.

Outside of tables the text does nothing.  If all of it stands there the two readings never part, and
then it makes no difference which of the two is asked where the tables are (`outside_iff`).

* `read_new_prose`: **blank lines and other text can only lower the count.**
-/

namespace FeatureLint

open Edit

namespace Line

variable {line : Line}

def isProse : Line → Bool
  | blank | other _ => true
  | _ => false

theorem name?_of_isProse (h : line.isProse = true) : line.name? = none := by
  fun_cases isProse line <;> simp_all [isProse, name?]

theorem cells?_of_isProse (h : line.isProse = true) : line.cells? = none := by
  fun_cases isProse line <;> simp_all [isProse, cells?]

theorem isFeature_of_isProse (h : line.isProse = true) : line.isFeature = false := by
  fun_cases isProse line <;> simp_all [isProse, isFeature]

end Line

namespace Position

variable {p q : Position} {line : Line} {es : List (Edit Line)}

theorem counts_of_isProse (h : line.isProse = true) (p : Position) : p.counts line = false := by
  fun_cases Line.isProse line <;> simp_all [Line.isProse, counts]

theorem next_of_isProse (h : line.isProse = true) (p : Position) :
    p.next line = if p.zone.isTable then { p with zone := .plain } else p := by
  fun_cases Line.isProse line <;> simp_all [Line.isProse, next]

theorem idle_of_isProse (h : line.isProse = true) (hzone : p.zone.isTable = false) :
    p.Idle line := by
  refine ⟨?_, counts_of_isProse h p⟩
  rw [next_of_isProse h, hzone]
  rfl

/-! ### Readings that part -/

/-- The position `p` is the position `q`, or it is outside of a table where `q` is inside. -/
structure Lags (p q : Position) : Prop where
  isOpen : p.outlineOpen = q.outlineOpen
  zone : p.zone = q.zone ∨ p.zone = .plain ∧ q.zone.isTable = true

theorem Lags.refl (p : Position) : p.Lags p := ⟨rfl, Or.inl rfl⟩

theorem Lags.next_prose (h : p.Lags q) (hline : line.isProse = true) : (p.next line).Lags q := by
  rw [next_of_isProse hline]
  split
  · rename_i htable
    rcases h.zone with hsame | ⟨hplain, -⟩
    · exact ⟨h.isOpen, Or.inr ⟨rfl, hsame ▸ htable⟩⟩
    · simp [hplain, Zone.isTable] at htable
  · exact h

theorem Lags.next (h : p.Lags q) (line : Line) : (p.next line).Lags (q.next line) := by
  obtain ⟨zone, isOpen⟩ := p
  obtain ⟨zone', isOpen'⟩ := q
  obtain ⟨rfl, rfl | ⟨rfl, htable⟩⟩ := h
  · exact .refl _
  · have hlags : Lags ⟨.plain, isOpen⟩ ⟨zone', isOpen⟩ := ⟨rfl, Or.inr ⟨rfl, htable⟩⟩
    cases line with
    | heading k title =>
      cases k with
      | scenario => exact .refl _
      | outline => exact .refl _
      | feature => exact hlags
      | examples =>
        -- the two come together in the header of the next table, if an outline is open
        cases isOpen with
        | true => exact .refl _
        | false => exact hlags
    | remark text => exact hlags
    | row text cells =>
      cases zone' with
      | header => exact ⟨rfl, Or.inr ⟨rfl, rfl⟩⟩
      | body => exact hlags
      | plain => cases htable
      | outline => cases htable
    | blank =>
      rw [next_of_isProse rfl ⟨zone', isOpen⟩, if_pos htable]
      exact .refl _
    | other text =>
      rw [next_of_isProse rfl ⟨zone', isOpen⟩, if_pos htable]
      exact .refl _

/-- A line that counts for a reading that lags behind counts for the other one too. -/
theorem Lags.counts (h : p.Lags q) (hcounts : p.counts line = true) : q.counts line = true := by
  cases line with
  | heading k title => cases k <;> simp_all [Position.counts]
  | row text cells =>
    have hbody : p.zone = .body := of_decide_eq_true hcounts
    rcases h.zone with hsame | ⟨hplain, -⟩
    · exact decide_eq_true (hsame ▸ hbody)
    · simp [hplain] at hbody
  | remark text => cases hcounts
  | blank => cases hcounts
  | other text => cases hcounts

/-- **A reading that lags behind counts no more lines.** -/
theorem countP_annotate_new_le (h : p.Lags q)
    (hprose : AddedWhere (fun _ line => line.isProse = true) es) :
    (annotate p (new es)).countP (fun (p, line) => p.counts line) ≤
      (annotate q (old es)).countP (fun (p, line) => p.counts line) := by
  -- for all pairs of positions, since `Lags` is what the two readings keep
  induction es generalizing p q with
  | nil => exact Nat.le_refl 0
  | cons e es ih =>
    cases e with
    | kept line =>
      rw [addedWhere_kept] at hprose
      rw [new_cons, old_kept, annotate_cons, annotate_cons, List.countP_cons, List.countP_cons,
        item]
      refine Nat.add_le_add (ih (h.next line) hprose) ?_
      show (if p.counts line then 1 else 0) ≤ if q.counts line then 1 else 0
      split
      · rename_i hcounts
        rw [if_pos (h.counts hcounts)]
      · exact Nat.zero_le _
    | added line =>
      rw [addedWhere_added] at hprose
      rw [new_cons, old_added, annotate_cons, item, List.countP_cons_of_neg]
      · exact ih (h.next_prose hprose.1) hprose.2
      · simp [counts_of_isProse hprose.1]

/-- While text is added outside of tables only, both readings are outside of tables there. -/
theorem outside_iff (hprose : AddedWhere (fun _ line => line.isProse = true) es) :
    AddedWhere (fun above _ => (p.after (old above)).zone.isTable = false) es ↔
      AddedWhere (fun above _ => (p.after (new above)).zone.isTable = false) es := by
  induction es generalizing p with
  | nil => simp
  | cons e es ih =>
    cases e with
    | kept line =>
      rw [addedWhere_kept] at hprose
      simp only [addedWhere_kept]
      exact ih (p := p.next line) hprose
    | added line =>
      rw [addedWhere_added] at hprose
      simp only [addedWhere_added]
      refine and_congr_right fun houtside => ?_
      have hstay : p.next line = p := (idle_of_isProse hprose.1 houtside).1
      have hbelow : ∀ lines, p.after (line :: lines) = p.after lines := fun lines => by
        rw [after, List.foldl_cons, hstay, after]
      simp only [old_added, new_cons, item, hbelow]
      exact ih hprose.2

def below (lines : List String) : Position := after {} (lines.map Line.read)

end Position

namespace Outline

/-- Lines are added only where the lines above, of the old file or of the new one, leave no table
open. -/
def OutsideTables (seen : List (Edit String) → List String) (es : List (Edit String)) : Prop :=
  AddedWhere (fun above _ => (Position.below (seen above)).zone.isTable = false) es

instance (seen : List (Edit String) → List String) : DecidablePred (OutsideTables seen) := fun es =>
  inferInstanceAs (Decidable (AddedWhere
    (fun above _ => (Position.below (seen above)).zone.isTable = false) es))

/-- **Blank lines and other text can only lower the count.**  Such lines may be added to a file
anywhere: the description, the names and the cells of the rows stay.  The count does not grow, and
if no line is added inside a table of examples it stays, too. -/
theorem read_new_prose (es : List (Edit String))
    (prose : AddedWhere (fun _ text => (Line.read text).isProse = true) es) :
    let before := read (old es)
    let after := read (new es)
    after.feature = before.feature ∧
      after.names = before.names ∧
      after.rows.map Row.cells = before.rows.map Row.cells ∧
      after.count ≤ before.count ∧
      (OutsideTables old es ∨ OutsideTables new es → after.count = before.count) := by
  have hprose : AddedWhere (fun _ line => line.isProse = true) (es.map (map Line.read)) :=
    addedWhere_map.mpr prose
  intro before after
  simp only [before, after, read_old, read_new]
  refine ⟨?_, ?_, ?_, ?_, ?_⟩
  · exact feature_new (hprose.imp fun _ _ h => Or.inl (Line.isFeature_of_isProse h))
  · exact names_new (hprose.imp fun _ _ => Line.name?_of_isProse)
  · rw [rows_new (hprose.imp fun _ _ => Line.cells?_of_isProse), List.map_map]
    rfl
  · exact Position.countP_annotate_new_le (.refl _) hprose
  · -- where the tables are is asked of the old file, and there the added lines do nothing
    intro houtside
    have hold : AddedWhere (fun above _ => (Position.after {} (old above)).zone.isTable = false)
        (es.map (map Line.read)) := by
      rcases houtside with hold | hnew
      · exact addedWhere_map.mpr (hold.imp fun above _ h => by rw [old_map]; exact h)
      · refine (Position.outside_iff hprose).mpr ?_
        exact addedWhere_map.mpr (hnew.imp fun above _ h => by rw [new_map]; exact h)
    exact count_new fun above line below hes =>
      Position.idle_of_isProse (hprose above line below hes) (hold above line below hes)

/-- A blank line tears a table, so that a row no longer counts until the next table begins; behind
the head of an outline and behind a step it does nothing. -/
theorem read_new_prose_torn_table :
    let torn : List (Edit String) :=
      [.kept "Scenario Outline: o", .kept "Examples:", .kept "| n |", .added "", .kept "| 1 |",
        .kept "Examples:", .kept "| m |", .kept "| 2 |"]
    let whole : List (Edit String) :=
      [.kept "Scenario Outline: o", .added "", .kept "Given a", .added " And b", .kept "Examples:",
        .kept "| n |", .kept "| 1 |"]
    (AddedWhere (fun _ text => (Line.read text).isProse = true) torn ∧
      (read (new torn)).count ≤ (read (old torn)).count ∧
      (read (old torn)).count = 2 ∧ (read (new torn)).count = 1) ∧
      AddedWhere (fun _ text => (Line.read text).isProse = true) whole ∧
      OutsideTables new whole ∧
      (read (new whole)).count = (read (old whole)).count := by
  intro torn whole
  have htorn : AddedWhere (fun _ text => (Line.read text).isProse = true) torn := by
    decide +kernel
  have hwhole : AddedWhere (fun _ text => (Line.read text).isProse = true) whole := by
    decide +kernel
  have houtside : OutsideTables new whole := by decide +kernel
  obtain ⟨-, -, -, hle, -⟩ := read_new_prose torn htorn
  obtain ⟨-, -, -, -, heq⟩ := read_new_prose whole hwhole
  exact ⟨⟨htorn, hle, by decide +kernel⟩, hwhole, houtside, heq (Or.inr houtside)⟩

end Outline

end FeatureLint
