import FeatureLint.Document.Quoted
import FeatureLint.Text.Blank

/-!
# Pieces of a line

Where a line is cut before its parts are read: at the equals sign between a name and its value, at
the bracket that closes a header, and at the commas of a list or of a table in braces.

A cut must not fall within quotes.  For equals signs and brackets, `quoteParts` gives the stretches
of a line outside and within quotes, in turn.  For commas, the line is cut at all of them first, and
the pieces that do not stand on their own are joined again.
-/

namespace FeatureLint.Document

def isQuote (c : Char) : Bool := c = '"' || c = '\''

def startsQuoted (cs : List Char) : Bool := cs.head?.any isQuote

/-- Stretches between single quotes, the last of which is open as long as their number is even; it
then takes in what follows the next double quote.  Also what is left of the stretches between double
quotes. -/
def closeSingle (singles : List (List Char)) :
    List (List Char) → List (List Char) × List (List Char)
  | [] => (singles, [])
  | part :: parts =>
    if singles.length % 2 = 0 then
      let joined := singles.getLastD [] ++ '"' :: part
      closeSingle (singles.dropLast ++ joined.splitOn '\'') parts
    else (singles, part :: parts)

/-- The stretches of a text between double quotes, the first of them cut at single quotes too. -/
def cutFirst : List (List Char) → List (List Char)
  | [] => []
  | part :: parts => part.splitOn '\'' ++ parts

/-- **The stretches of a line outside and within quotes**, in turn. -/
def quoteParts (line : List Char) : List (List Char) :=
  match line.splitOn '"' with
  | first :: part :: parts =>
    if first.contains '\'' then
      let (singles, rest) := closeSingle (first.splitOn '\'') (part :: parts)
      singles ++ cutFirst rest
    else cutFirst (first :: part :: parts)
  | parts => cutFirst parts

/-- How many marks stand in front of the first stretch outside of quotes that has one; `marks`
tells the number of marks in a stretch.  If there is none, all of them count. -/
def marksBefore (marks : List Char → Nat) (quoted : Bool) : List (List Char) → Nat
  | [] => 0
  | part :: parts =>
    if !quoted && 0 < marks part then 0 else marks part + marksBefore marks (!quoted) parts

/-- A text cut at the mark with a number, counted from one; the text is given by its stretches
between marks.  If there are fewer marks, it is cut at the last one. -/
def cutAt (mark : List Char) (n : Nat) (parts : List (List Char)) : List Char × List Char :=
  let k := min n (parts.length - 1)
  (mark.intercalate (parts.take k), mark.intercalate (parts.drop k))

/-! ### Lists -/

/-- Whether a piece of a list of texts stands on its own: it ends with the quote that it starts
with. -/
def isBounded (cs : List Char) : Bool :=
  match cs with
  | [] => true
  | c :: rest =>
    match rest.reverse with
    | [] => true
    | d :: middle => d = c && (middle.takeWhile (· = '\\')).length % 2 = 0

def isHalfLong (cs : List Char) : Bool :=
  match cs, cs.reverse with
  | a :: b :: c :: _, _ :: y :: z :: _ => a = b && b = c && y ≠ a && z ≠ a
  | _, _ => false

def isWhole (piece : List Char) : Bool :=
  let cs := Text.trim piece
  isBounded cs && !isHalfLong cs

/-- The pieces of a list of texts, joined where they are not whole.  The last piece is not looked
at, unless something was joined to it. -/
def joinTexts (piece : List Char) : List (List Char) → Except Fault (List (List Char))
  | [] => if isWhole piece then .ok [piece] else .error (.outOfRange .list)
  | next :: rest =>
    if isWhole piece then
      match rest with
      | [] => .ok [piece, next]
      | _ => (joinTexts next rest).map (piece :: ·)
    else joinTexts (piece ++ ',' :: next) rest

/-- The pieces of a list of tables in braces: what was read of the one that is open, last character
first, how many braces are open, and whether a text is.  Between two tables one character is passed
over, and then all up to the next brace. -/
inductive BraceState where
  | within (read : List Char) (depth : Nat) (quoted : Bool)
  | between (first : Bool)

/-- Whether a text is open after a character, by what stands in front of it, last first. -/
def quotedAfter (read : List Char) (quoted : Bool) (c : Char) : Bool :=
  if isQuote c then
    if quoted then (read.takeWhile (· = '\\')).length % 2 = 1 else true
  else quoted

def bracePieces : BraceState → List Char → List (List Char)
  | _, [] => []
  | .between first, c :: cs =>
    if first then bracePieces (.between false) cs
    else if c = '{' then bracePieces (.within [c] 1 false) cs
    else bracePieces (.between false) cs
  | .within read depth quoted, c :: cs =>
    let quoted := quotedAfter read quoted c
    let depth := if !quoted && c = '{' then depth + 1 else depth
    if quoted || c ≠ '}' then bracePieces (.within (c :: read) depth quoted) cs
    else if 1 < depth then bracePieces (.within (c :: read) (depth - 1) quoted) cs
    else (c :: read).reverse :: bracePieces (.between true) cs

/-- The pieces of a list of lists: `read` is what was read of the open one, last character first,
and `depth` tells how many lists are open. -/
def listPieces (read : List Char) (depth : Int) : List Char → List (List Char)
  | [] => [read.reverse]
  | c :: cs =>
    if c = '[' then listPieces (c :: read) (depth + 1) cs
    else if c = ']' then listPieces (c :: read) (depth - 1) cs
    else if c = ',' && depth = 0 then read.reverse :: listPieces [] depth cs
    else listPieces (c :: read) depth cs

def startsWithList (body : List Char) : Bool :=
  body.contains '[' && (body.takeWhile (· ≠ '[')).all Text.isBlank

/-- **The pieces of a list**, given with its brackets.  Whatever the last character is, it is taken
for the closing bracket. -/
def pieces (cs : List Char) : Except Fault (List (List Char)) :=
  let body := Quoted.inner (Text.trim cs)
  if startsWithList body then .ok (listPieces [] 0 body)
  else if (Text.trim body).head? = some '{' then
    match body with
    | [] => .ok []
    | c :: rest => .ok (bracePieces (.within [c] (if c = '{' then 1 else 0) false) rest)
  else if startsQuoted (Text.trim body) then
    match body.splitOn ',' with
    | piece :: next :: rest => joinTexts piece (next :: rest)
    | single => .ok single
  else .ok (body.splitOn ',')

/-! ### Tables in braces -/

def isWholeValue (cs : List Char) : Except Fault Bool :=
  match cs with
  | [] => .error (.outOfRange .text)
  | c :: _ =>
    let last := cs.getLastD c
    .ok ((c = last && isQuote c) || c = '-' || c.isDigit || cs = "true".toList
      || cs = "false".toList || (c = '[' && last = ']') || (c = '{' && last = '}'))

def isWholeField (field : List Char) : Except Fault Bool :=
  match field.dropWhile (· ≠ '=') with
  | [] => .error .document
  | _ :: value => isWholeValue (Text.trim value)

def joinFields (field : List Char) : List (List Char) → Except Fault (List (List Char))
  | [] =>
    match isWholeField field with
    | .error fault => .error fault
    | .ok whole => if whole then .ok [field] else .error .document
  | next :: rest =>
    match isWholeField field with
    | .error fault => .error fault
    | .ok true => (joinFields next rest).map (field :: ·)
    | .ok false => joinFields (field ++ ',' :: next) rest

/-- **The fields of a table in braces**, given with its braces. -/
def fields (cs : List Char) : Except Fault (List (List Char)) :=
  match (Quoted.inner cs).splitOn ',' with
  | [] => .ok []
  | [field] => if field.all Text.isBlank then .ok [] else joinFields field []
  | field :: rest => joinFields field rest

end FeatureLint.Document
