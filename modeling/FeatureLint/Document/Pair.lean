import FeatureLint.Document.Number
import FeatureLint.Document.Pieces
import FeatureLint.Document.Table

/-!
# Pairs of a document

A pair is a name, an equals sign and a value.  The name may be in quotes, and it may have dots, and
then leads to a field of another table.  The value may be a text that goes on over the next lines:
the pair then only starts it (`LongText`).

Values hold values, in lists, and pairs, in tables in braces.  `value` takes a fuel for that, which
the length of the text bounds, since a part is shorter than the whole.
-/

namespace FeatureLint.Document

/-- A text that goes on over the next lines. -/
structure LongText where
  key : String
  read : List Char
  /-- Whether the line feed behind the last line is left out. -/
  joined : Bool

/-- A long text after one more line: a backslash at the end of the line takes away the line feed and
itself. -/
def LongText.after (key : String) (read : List Char) : LongText :=
  if endsEscaped read then ⟨key, read.dropLast, true⟩ else ⟨key, read ++ ['\n'], false⟩

/-- How a value is read: whether it has to be tidy, and its text. -/
abbrev Reader := Bool → List Char → Except Fault Value

/-! ### Where the value starts -/

/-- The number of the equals sign that ends the name, counted from one: the first that is outside of
quotes. -/
def equalsSign (line : List Char) : Nat :=
  marksBefore (·.count '=') false (quoteParts line) + 1

/-- Whether a value that follows its equals sign without a space is one as it stands. -/
def standsAlone (cs : List Char) : Bool :=
  match cs with
  | [] => true
  | c :: _ =>
    c = ' ' || c = '\t' || isQuote c || c = '[' || c = '{' || Text.trim cs = "true".toList
      || Text.trim cs = "false".toList || (decimal? cs).isSome || (Moment.ofDate? cs).isSome
      || Moment.startsWithTime cs

/-- A line cut into name and value.  If the value does not stand alone, the next equals sign is
tried; `fuel` bounds the number of them.  Also whether all values that were tried are tidy. -/
def cutPair (parts : List (List Char)) :
    Nat → Nat → Bool → List Char × List Char → Except Fault (List Char × List Char × Bool)
  | 0, _, _, _ => .error .document
  | fuel + 1, n, tidy, (name, value) =>
    if standsAlone value then .ok (name, value, tidy)
    else
      let cut := cutAt ['='] (n + 1) parts
      if cut.2 = value then .error .document
      else cutPair parts fuel (n + 1) (tidy && isTidy cut.2) cut

/-- **The name and the value of a pair**, and whether the value is tidy.  A number that follows its
equals sign at once is read without its low lines. -/
def splitLine (line : List Char) : Except Fault (List Char × List Char × Bool) :=
  let parts := line.splitOn '='
  let n := equalsSign line
  let (name, value) := cutAt ['='] n parts
  let bare := if value.head?.any Char.isDigit then value.filter (· ≠ '_') else value
  (cutPair parts (parts.length + 3) n (isTidy value) (name, bare)).map fun (name, value, tidy) =>
    (Text.trim name, Text.trim value, tidy)

/-! ### Names -/

def quotedLevels (quoted : Bool) : List (List Char) → List (List Char)
  | [] => []
  | part :: parts =>
    (if quoted then [part] else (part.splitOn '.').map Text.trim) ++ quotedLevels (!quoted) parts

/-- The names that a name with dots is made of; empty ones at the end do not count. -/
def levels (name : List Char) : List (List Char) :=
  let found :=
    if name.any isQuote then quotedLevels false (quoteParts name) else name.splitOn '.'
  (found.reverse.dropWhile List.isEmpty).reverse

def keyOf (name : List Char) : Except Fault (List String × String) :=
  if name.contains '.' then
    match (levels name).reverse with
    | [] => .error (.outOfRange .list)
    | last :: path =>
      .ok (path.reverse.map String.ofList, String.ofList (Text.trim last))
  else
    match name with
    | [] => .error (.outOfRange .text)
    | c :: _ =>
      if isQuote c && name.getLast? = some c then
        (Quoted.unescape (Quoted.inner name)).map fun cs => ([], String.ofList cs)
      else .ok ([], String.ofList name)

/-! ### Long texts -/

/-- The last text of a list that is not closed, by the pieces between its commas, last one first. -/
def lastText : List (List Char) → Except Fault (List Char)
  | [] => .ok []
  | [piece] => .ok piece
  | [] :: _ :: _ => .error (.outOfRange .text)
  | (c :: piece) :: next :: rest =>
    if isQuote c then .ok (c :: piece) else lastText ((next ++ ',' :: c :: piece) :: rest)
termination_by pieces => pieces.length

def opensLong (cs : List Char) : Except Fault Bool :=
  match cs with
  | [] => .ok false
  | c :: rest =>
    if !isQuote c then .ok false
    else
      match rest with
      | [] => .error (.outOfRange .text)
      | d :: rest =>
        if d ≠ c then .ok false
        else
          match rest with
          | [] => .error (.outOfRange .text)
          | e :: _ => .ok (e = c && !(5 < cs.length && [c, c, c].isPrefixOf cs.reverse))

/-- Whether a value goes on over the next lines: a text in three quotes that are not closed, or a
list that ends in such a text. -/
def goesOn (cs : List Char) : Except Fault Bool :=
  if cs.length < 3 then .ok false
  else if cs.head? = some '[' && cs.getLast? ≠ some ']'
      && startsQuoted (Text.trim (Quoted.inner cs)) then
    match lastText ((Text.trim cs.tail).splitOn ',').reverse with
    | .error fault => .error fault
    | .ok text => opensLong text
  else opensLong cs

/-! ### Values -/

/-- Whether the members of a list have one type.  Dates count as one type, with a time or without
it. -/
def sameType (v w : Value) : Bool :=
  match v, w with
  | .scalar (.moment m), .scalar (.moment n) => m.hasDate = n.hasDate
  | v, w => v.typeName = w.typeName

/-- The values of the pieces of a list, which have one type.  Empty pieces do not count. -/
def members (read : Reader) : Option Value → List (List Char) → Except Fault (List Value)
  | _, [] => .ok []
  | first, piece :: pieces =>
    match Text.trim piece with
    | [] => members read first pieces
    | cs =>
      match read true cs with
      | .error fault => .error fault
      | .ok v =>
        if first.all (sameType v) then
          (members read (first.orElse fun _ => some v) pieces).map (v :: ·)
        else .error .document

/-- **A table after a pair was added to it**, unless the pair starts a long text, which is
returned. -/
def addPair (read : Reader) (line : List Char) (table : Value) :
    Except Fault (Value × Option LongText) := do
  let (name, value, tidy) ← splitLine line
  let (path, key) ← keyOf name
  changeBelow (fun v => do
    if ← goesOn value then
      -- the field must be free, whatever comes of it
      let _ ← addField key (.scalar .null) v
      if key = "" then throw .nameless
      return (v, some (.after key value))
    else
      return (← addField key (← read tidy value) v, none)) path table

def addFields (read : Reader) (table : Value) : List (List Char) → Except Fault Value
  | [] => .ok table
  | field :: rest =>
    match addPair read field table with
    | .error fault => .error fault
    | .ok (table, some _) => .ok table
    | .ok (table, none) => addFields read table rest

def addBraced (read : Reader) (cs : List Char) (table : Value) : Except Fault Value :=
  match fields cs with
  | .error fault => .error fault
  | .ok fields => addFields read table fields

def plainValue (tidy : Bool) (cs : List Char) : Except Fault Value :=
  if Moment.startsWithTime cs then
    match Moment.ofTime? cs with
    | some m => .ok (.scalar (.moment m))
    | none => .error .document
  else
    match Moment.ofDate? cs with
    | some m => .ok (.scalar (.moment m))
    | none =>
      if !tidy then .error .document
      else
        match number? cs with
        | some (.int n) => .ok (.int n)
        | some (.measure m) => .ok (.scalar (.measure m))
        | none => .error .document

/-- **The value that a text spells.** -/
def value : Nat → Reader
  | 0, _, _ => .error .document
  | _, _, [] => .error .document
  | fuel + 1, tidy, c :: rest =>
    let cs := c :: rest
    if lower cs = "true".toList || lower cs = "false".toList then
      if cs = lower cs then .ok (.bool (cs = "true".toList)) else .error .document
    else if isQuote c then (quotedText c cs).map .text
    else if c = '[' then
      match pieces cs with
      | .error fault => .error fault
      | .ok pieces => (members (value fuel) none pieces).map .list
    else if c = '{' then addBraced (value fuel) cs (.table .braced [])
    else plainValue tidy cs

end FeatureLint.Document
