import FeatureLint.Document.Lines
import FeatureLint.Document.Pair

/-!
# The text of a document

Reading a document, line by line: headers, pairs, and tables in braces, whose fields go to the table
of the last header.  A line that is none of these says nothing.  A text that a pair starts and that
goes on over the next lines ends at a line that ends in its three quotes; one that does not end is
left out.
-/

namespace FeatureLint.Document

/-- A document in the course of reading. -/
structure State where
  root : Value := .table .plain []
  /-- The way to the table of the last header. -/
  way : List Step := []
  /-- The names that headers passed through. -/
  passed : List String := []
  long : Option LongText := none

/-! ### Headers -/

/-- Whether a text can stand in a header without quotes: letters and digits of ASCII, low lines and
hyphens. -/
def isHeaderName (cs : List Char) : Bool :=
  !cs.isEmpty && cs.all fun c => c.isAlphanum || c = '_' || c = '-'

def isClosed (cs : List Char) : Bool := 1 < cs.length && cs.head? = cs.getLast?

/-- The names of a header, from the stretches between its dots.  Stretches are joined from one that
starts with a quote to one that ends with it; `opened` is what was joined so far. -/
def headerNames : Option (List Char) → List (List Char) → Except Fault (List String)
  | none, [] => .ok []
  | some _, [] => .error .document
  | opened, part :: parts =>
    let joined := match opened with
      | some cs => cs ++ '.' :: part
      | none => Text.trim part
    if startsQuoted joined then
      let cs := Text.trim joined
      if isClosed cs then
        (headerNames none parts).map (String.ofList (Quoted.inner cs) :: ·)
      else headerNames (some joined) parts
    else if isHeaderName joined then (headerNames none parts).map (String.ofList joined :: ·)
    else .error .document

/-- The names of a header, which is given without its opening brackets. -/
def header (many : Bool) (cs : List Char) : Except Fault (List String) :=
  let mark := if many then [']', ']'] else [']']
  let cut := fun cs : List Char => if many then splitPair ']' ']' cs else cs.splitOn ']'
  let n := marksBefore (fun part => (cut part).length - 1) false (quoteParts cs) + 1
  let parts := cut cs
  if parts.length < n + 1 || !(mark.intercalate (parts.drop n)).all Text.isBlank then
    .error .document
  else headerNames none ((mark.intercalate (parts.take n)).splitOn '.')

def State.open (st : State) (many : Bool) (cs : List Char) : Except Fault State := do
  let names ← header many cs
  let opened ← openTable many st.passed names st.root
  return { st with root := opened.value, way := opened.way, passed := opened.passed }

/-! ### Lines -/

def reader (cs : List Char) : Reader := value (cs.length + 1)

def State.pair (st : State) (line : List Char) : Except Fault State := do
  let (root, long) ← change (addPair (reader line) line) st.way st.root
  return { st with root, long }

def State.braced (st : State) (line : List Char) : Except Fault State := do
  if line.getLast? ≠ some '}' then throw .document
  let (root, _) ← change (fun v => (addBraced (reader line) line v).map (·, ())) st.way st.root
  return { st with root }

/-- Whether a line ends a long text, `read` being all of it. -/
def endsLong (read line : List Char) : Except Fault Bool :=
  match read.head? with
  | some '[' =>
    match line.getLast? with
    | none => .error (.outOfRange .text)
    | some c => .ok (c = ']')
  | some quote => .ok ([quote, quote, quote].isPrefixOf line.reverse)
  | none => .ok false

def State.longLine (st : State) (long : LongText) (line : List Char) : Except Fault State := do
  let read := long.read ++ line
  if ← endsLong read line then
    let v ← reader read true read
    let set := fun table : Value => match table with
      | .table form fields => .ok (.table form (put long.key v fields), ())
      | _ => .error .document
    let (root, _) ← change set st.way st.root
    return { st with root, long := none }
  else return { st with long := some (.after long.key read) }

/-- The document after a line outside of long texts, which has no blanks at its ends. -/
def State.line (st : State) (line : List Char) : Except Fault State :=
  match line with
  | [] => .ok st
  | ['['] => .error .document
  | '[' :: '[' :: rest => st.open true rest
  | '[' :: rest => st.open false rest
  | '{' :: _ => st.braced line
  | _ => if line.contains '=' then st.pair line else .ok st

/-- **The document after one more line.**  A line of a long text keeps its blanks, unless a line
feed was left out in front of it. -/
def State.next (st : State) (line : List Char) : Except Fault State :=
  match st.long with
  | none => st.line (Text.trim line)
  | some long =>
    if long.joined then
      let line := Text.trim line
      if line.isEmpty then .ok st else st.longLine long line
    else st.longLine long line

/-- **The fields of a document.** -/
def ofChars (cs : List Char) : Except Fault (List (String × Value)) := do
  let lines ← Lines.ofChars cs
  let st ← lines.foldlM State.next {}
  match st.root with
  | .table _ fields => return fields
  | _ => throw .document

end FeatureLint.Document
