import FeatureLint.Feature.Line

/-!
# Scenarios of a feature file

How many scenarios a feature file has, and what they are called.  A scenario counts once.  A
scenario outline counts nothing by itself: each row of the tables of examples that belong to it
counts, apart from the first row of each table, which names the columns.

Whether a row counts depends on what stands above it, and `Position` is all there is to know of
that: the part of the file a line is in, and whether an outline is open, so that a table of
examples would belong to it.  `Position.next` moves it past a line.  Tags, comments and further
feature lines leave it alone; a blank line or other text ends a table.
-/

namespace FeatureLint

/-- The part of a feature file that a line stands in. -/
inductive Zone where
  /-- Outside of any table of examples, and not right below the head of an outline. -/
  | plain
  /-- Below the head of an outline. -/
  | outline
  /-- Below an examples line, above the first row of the table. -/
  | header
  /-- Below the first row of a table of examples. -/
  | body
  deriving DecidableEq, Repr

/-- What stands above a line, as far as counting goes. -/
structure Position where
  zone : Zone := .plain
  /-- Whether an examples line would belong to an outline. -/
  outlineOpen : Bool := false
  deriving DecidableEq, Repr

def Zone.isTable : Zone → Bool
  | .header | .body => true
  | _ => false

namespace Position

def next (p : Position) : Line → Position
  | .heading .scenario _ => ⟨.plain, false⟩
  | .heading .outline _ => ⟨.outline, true⟩
  | .heading .examples _ => if p.outlineOpen then { p with zone := .header } else p
  | .heading .feature _ => p
  | .row .. => if p.zone = .header then { p with zone := .body } else p
  | .remark _ => p
  | .blank | .other _ => if p.zone.isTable then { p with zone := .plain } else p

/-- Whether a line at this position counts as a scenario. -/
def counts (p : Position) : Line → Bool
  | .heading .scenario _ => true
  | .row .. => p.zone = .body
  | _ => false

def endsTable (p : Position) : Line → Bool
  | .blank | .other _ => p.zone.isTable
  | _ => false

def after (p : Position) (lines : List Line) : Position := lines.foldl next p

/-- Lines with the positions above them, last one first, and behind them more lines, each with the
position above it. -/
def annotateTo (out : List (Position × Line)) (p : Position) :
    List Line → List (Position × Line)
  | [] => out.reverse
  | line :: lines => annotateTo ((p, line) :: out) (p.next line) lines

def annotate (p : Position) (lines : List Line) : List (Position × Line) := annotateTo [] p lines

theorem annotateTo_append (out tail : List (Position × Line)) (p : Position)
    (lines : List Line) :
    annotateTo (out ++ tail) p lines = tail.reverse ++ annotateTo out p lines := by
  induction lines generalizing out p with
  | nil => simp [annotateTo]
  | cons line lines ih => exact ih ((p, line) :: out) (p.next line)

@[simp] theorem annotate_nil (p : Position) : annotate p [] = [] := rfl

@[simp] theorem annotate_cons (p : Position) (line : Line) (lines : List Line) :
    annotate p (line :: lines) = (p, line) :: annotate (p.next line) lines :=
  annotateTo_append [] [(p, line)] (p.next line) lines

end Position

structure Row where
  /-- The number of the line, from one. -/
  line : Nat
  cells : List String
  deriving DecidableEq, Repr

structure Outline where
  /-- The description of the feature: the title of the first feature line. -/
  feature : Option String
  names : List String
  count : Nat
  rows : List Row
  /-- The numbers of the lines that end a table of examples, in order. -/
  tableEnds : List Nat
  deriving DecidableEq, Repr

namespace Line

def feature? : Line → Option String
  | heading .feature title => some title
  | _ => none

def name? : Line → Option String
  | heading .scenario title => some title
  | heading .outline title => some title
  | _ => none

def cells? : Line → Option (List String)
  | row _ cells => some cells
  | _ => none

end Line

namespace Outline

/-- The rows among lines, the first of which has the number `first`. -/
def rowsFrom (first : Nat) (lines : List Line) : List Row :=
  (lines.zipIdx first).filterMap fun (line, number) => line.cells?.map (Row.mk number)

def ofLines (lines : List Line) : Outline :=
  let annotated := Position.annotate {} lines
  { feature := lines.findSome? Line.feature?
    names := lines.filterMap Line.name?
    count := annotated.countP fun (p, line) => p.counts line
    rows := rowsFrom 1 lines
    tableEnds := (annotated.zipIdx 1).filterMap fun ((p, line), number) =>
      if p.endsTable line then some number else none }

/-- **The outline of a file's lines.** -/
def read (lines : List String) : Outline := ofLines (lines.map Line.read)

end Outline

end FeatureLint
