import FeatureLint.Feature.File
import FeatureLint.Proofs.ExampleRows
import FeatureLint.Proofs.Lists

/-!
# Outlines of files that are joined

The lines of a file can be cut in front of a line that opens a scenario or an outline, and what is
known of the file is what is known of the two pieces.  All that is carried past the cut is a
`Position`, and a line of this kind forgets it: the position below it is the same whatever was above
(`Position.next_of_isHead`), it counts or not by itself, and it never ends a table.  So the second
piece is read as if it stood alone, even if the first one stops in the middle of a table.

Only the numbers of lines have to be moved down, by the length of the first piece
(`filterMap_zipIdx_add`).
-/

namespace FeatureLint

def Row.down (n : Nat) (r : Row) : Row := { r with line := r.line + n }

def Event.down (n : Nat) : Event → Event
  | .tableEnd file line => .tableEnd file (line + n)
  | e => e

/-! ### Lines that forget what is above -/

namespace Position

variable {head : Line} (h : head.isHead = true) (p q : Position)

include h

theorem next_of_isHead : p.next head = q.next head := by
  cases head with
  | heading k title =>
    cases k with
    | scenario => rfl
    | outline => rfl
    | feature => cases h
    | examples => cases h
  | row | remark | blank | other => cases h

theorem counts_of_isHead : p.counts head = q.counts head := by
  cases head with
  | heading k title => cases k <;> rfl
  | row => cases h
  | remark | blank | other => rfl

theorem endsTable_of_isHead : p.endsTable head = false := by
  cases head with
  | heading | row | remark => rfl
  | blank | other => cases h

theorem annotate_of_isHead (rest : List Line) :
    annotate p (head :: rest) = (p, head) :: annotate (q.next head) rest := by
  rw [annotate_cons, next_of_isHead h p q]

end Position

theorem Position.annotate_append (p : Position) (above below : List Line) :
    annotate p (above ++ below) = annotate p above ++ annotate (p.after above) below := by
  induction above generalizing p with
  | nil => rfl
  | cons line above ih => rw [List.cons_append, annotate_cons, annotate_cons, ih]; rfl

/-! ### The parts of an outline -/

namespace Outline

variable {head : Line} {above below : List Line}

theorem feature_append :
    (ofLines (above ++ below)).feature = (ofLines above).feature.or (ofLines below).feature :=
  List.findSome?_append

theorem names_append :
    (ofLines (above ++ below)).names = (ofLines above).names ++ (ofLines below).names :=
  List.filterMap_append

theorem rows_append :
    (ofLines (above ++ below)).rows =
      (ofLines above).rows ++ (ofLines below).rows.map (Row.down above.length) := by
  have hmove : ∀ (line : Line) (i : Nat), line.cells?.map (Row.mk (i + above.length)) =
      (line.cells?.map (Row.mk i)).map (Row.down above.length) := by
    intro line i
    rw [Option.map_map]
    rfl
  show rowsFrom 1 (above ++ below) = _
  rw [rowsFrom, List.zipIdx_append, List.filterMap_append]
  exact congrArg _ (filterMap_zipIdx_add hmove below 1)

theorem count_append (h : head.isHead = true) :
    (ofLines (above ++ head :: below)).count =
      (ofLines above).count + (ofLines (head :: below)).count := by
  simp only [ofLines, Position.annotate_append, Position.annotate_of_isHead h _ {},
    List.countP_append, List.countP_cons, Position.counts_of_isHead h _ {}]

theorem tableEnds_append (h : head.isHead = true) :
    (ofLines (above ++ head :: below)).tableEnds =
      (ofLines above).tableEnds ++
        (ofLines (head :: below)).tableEnds.map (· + above.length) := by
  have hmove : ∀ (a : Position × Line) (i : Nat),
      (if a.1.endsTable a.2 then some (i + above.length) else none) =
        (if a.1.endsTable a.2 then some i else none).map (· + above.length) := by
    intro a i
    split <;> rfl
  simp only [ofLines, Position.annotate_append, Position.annotate_of_isHead h _ {},
    List.zipIdx_append, List.filterMap_append, length_annotate]
  refine congrArg _ ?_
  rw [filterMap_zipIdx_add hmove]
  simp only [List.zipIdx_cons, List.filterMap_cons, Position.endsTable_of_isHead h]

theorem events_down (o : Outline) (p : Path) (n : Nat) :
    (o.events p).map (Event.down n) = (o.tableEnds.map (· + n)).map (Event.tableEnd p) := by
  rw [events, List.map_map, List.map_map]
  rfl

/-- **Files may be joined in front of a scenario.**  If the second piece starts with a line that
opens a scenario or an outline, its outline is that of the first piece and then that of the second,
whose lines are further down by the length of the first.  The description is that of the first piece
that has one. -/
theorem read_append (above below : List String) (head : String)
    (opens : (Line.read head).isHead = true) :
    let whole := read (above ++ head :: below)
    let first := read above
    let second := read (head :: below)
    whole.count = first.count + second.count ∧
      whole.names = first.names ++ second.names ∧
      whole.rows = first.rows ++ second.rows.map (Row.down above.length) ∧
      whole.feature = first.feature.or second.feature ∧
      ∀ p, whole.events p =
        first.events p ++ (second.events p).map (Event.down above.length) := by
  intro whole first second
  have hwhole : whole =
      ofLines (above.map Line.read ++ Line.read head :: below.map Line.read) := by
    simp only [whole, read, List.map_append, List.map_cons]
  have hsecond : second = ofLines (Line.read head :: below.map Line.read) := by
    simp only [second, read, List.map_cons]
  have hlength : above.length = (above.map Line.read).length := (List.length_map _).symm
  rw [hwhole, hsecond, hlength]
  refine ⟨count_append opens, names_append, rows_append, feature_append, fun p => ?_⟩
  rw [events, tableEnds_append opens, List.map_append, events_down]
  rfl

/-- The first piece stops in the middle of a table of examples. -/
theorem read_append_open_table :
    let above := ["Scenario Outline: a", "Examples:", "| x |", "| 1 |"]
    let below := ["| 2 |", "Examples:", "| y |", "text"]
    let head := "  Scenario Outline: b"
    (Line.read head).isHead = true ∧
      let whole := read (above ++ head :: below)
      let first := read above
      let second := read (head :: below)
      whole.count = first.count + second.count ∧
        whole.names = first.names ++ second.names ∧
        whole.rows = first.rows ++ second.rows.map (Row.down above.length) ∧
        whole.feature = first.feature.or second.feature ∧
        ∀ p, whole.events p =
          first.events p ++ (second.events p).map (Event.down above.length) := by
  intro above below head
  have hopens : (Line.read head).isHead = true := by decide +kernel
  exact ⟨hopens, read_append above below head hopens⟩

end Outline

end FeatureLint
