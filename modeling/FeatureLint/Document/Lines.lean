import FeatureLint.Fault
import FeatureLint.Text.Blank
import FeatureLint.Text.Word

/-!
# Lines of a document

A document is read line by line, but not every line feed ends a line: those within a list do not.
`Lines.ofChars` goes through the text once, character by character.  It writes spaces for comments
and for the line feeds within lists, and checks what can be told without reading values: that the
name in front of an equals sign is well-formed, and that quotes are closed.

The characters on the way may depend on what stands behind them: three quotes in a row open or
close a long text, and a backslash takes its meaning from a quote.  The text is taken as a ring
there: what stands behind its first character is its end.
-/

namespace FeatureLint.Document

namespace Lines

/-- What part of the name in front of an equals sign was read last. -/
inductive NamePart where
  | none
  | body
  /-- What stands behind the characters or the quotes. -/
  | gap
  deriving DecidableEq, Repr

inductive Header where
  | none
  | table
  | tables
  deriving DecidableEq, Repr

structure State where
  depth : Int := 0
  /-- The quote of the text that is open. -/
  quote : Option Char := none
  /-- Whether a text of several lines is open. -/
  long : Bool := false
  header : Header := .none
  /-- Whether nothing but spaces was read of the line. -/
  fresh : Bool := true
  /-- The part of a name that was read last. -/
  name : NamePart := .none
  /-- Whether the name has dots. -/
  dotted : Bool := false
  comment : Bool := false
  deriving DecidableEq, Repr

def isOdd (cs : List Char) : Bool := cs.length % 2 = 1

/-- Whether a character may be one of those that a quote depends on. -/
def matters (c : Char) : Bool := c = '\'' || c = '"' || c = '\\'

/-- What stands behind a character, nearest first; `before` is what was written so far, last first,
and `after` is what follows the character. -/
def behind (before : List Char) (c : Char) (after : List Char) : List Char :=
  if before.all matters then before ++ after.reverse ++ c :: before else before

def resumes? (after : List Char) : Except Fault Bool :=
  match after with
  | [] => .error (.outOfRange .list)
  | next :: _ => .ok (!Text.isBlank next && next ≠ '.')

/-- The state after a blank or a dot behind a part of a name that has dots. -/
def resume (st : State) (after : List Char) : Except Fault State :=
  (resumes? after).map fun resumes => if resumes then { st with name := .body } else st

def inQuotedName (st : State) (before : List Char) (c : Char) : State :=
  if st.quote = some c && !isOdd (before.takeWhile (· = '\\')) then
    { st with name := .gap, quote := none }
  else st

/-- The state after a character of a name that no rule for its part takes: it has to end the
name. -/
def endName (st : State) (c : Char) : Except Fault State :=
  if c = '=' then .ok { st with name := .none, dotted := false } else .error .document

def inName (st : State) (before : List Char) (c : Char) (after : List Char) :
    Except Fault State :=
  if c = '\n' then .error .document
  else if st.quote.isSome then .ok (inQuotedName st before c)
  else match st.name with
    | .none => .ok st
    | .body =>
      if Text.isBlank c then .ok { st with name := .gap }
      else if c = '.' then .ok { st with dotted := true }
      else if Text.isWord c || c = '-' then .ok st
      else if st.dotted && before.head? = some '.' && (c = '"' || c = '\'') then
        .ok { st with quote := some c }
      else endName st c
    | .gap =>
      if Text.isBlank c then if st.dotted then resume st after else .ok st
      else if c = '.' then resume { st with dotted := true } after
      else endName st c

/-- The state after a quote that is not escaped; `triple` tells the third in a row. -/
def toggle (st : State) (c : Char) (triple : Bool) : State :=
  let long := if triple then !st.long else st.long
  let opens := if triple then long else st.quote.isNone
  { st with long, quote := if opens then some c else none }

def atQuote (st : State) (before : List Char) (c : Char) (after : List Char) : State :=
  let back := behind before c after
  let run := ((back.take 2).takeWhile (· = c)).length
  let escaped :=
    c = '"' && run ≠ 1 && isOdd ((back.drop run).takeWhile (· = '\\'))
  if st.quote.any (· ≠ c) || escaped then st else toggle st c (run = 2)

def atBracket (st : State) (before : List Char) (c : Char) (after : List Char) : State :=
  if c = '[' then
    if st.header ≠ .none then st
    else if st.fresh then { st with header := if after.head? = some '[' then .tables else .table }
    else { st with depth := st.depth + 1 }
  else
    match st.header with
    | .table => { st with header := .none }
    | .tables => if before.head? = some ']' then { st with header := .none } else st
    | .none => { st with depth := st.depth - 1 }

/-- What is written for a line feed within a text of several lines.  Two quotes in front of it take
its place as a third one, and a quote in front of these becomes a space. -/
def longFeed (before : List Char) : List Char :=
  match before with
  | a :: b :: rest =>
    if matters a && a ≠ '\\' && a = b then
      match rest with
      | d :: rest => if d = a then a :: a :: b :: ' ' :: rest else a :: a :: b :: d :: rest
      | [] => a :: before
    else '\n' :: before
  | _ => '\n' :: before

/-- The state, and all that was written, after a line feed outside of a name. -/
def atFeed (st : State) (before : List Char) : Except Fault (State × List Char) :=
  if st.long then .ok (st, longFeed before)
  else if st.quote.isSome then .error .document
  else if st.depth ≠ 0 then .ok (st, ' ' :: before)
  else .ok ({ st with fresh := true }, '\n' :: before)

/-- The state after the first character of a line that is no space: a name starts there, unless a
header does. -/
def atStart (st : State) (c : Char) : Except Fault State :=
  if !st.fresh || c = ' ' || c = '\t' then .ok st
  else if st.header ≠ .none then .ok { st with fresh := false }
  else if c = '=' then .error .document
  else .ok { st with fresh := false, name := .body }

def atChar (st : State) (before : List Char) (c : Char) (after : List Char) :
    Except Fault State :=
  let st :=
    if c = '\'' || c = '"' then atQuote st before c after
    else if (c = '[' || c = ']') && st.quote.isNone then atBracket st before c after
    else st
  atStart st c

def next (st : State) (before : List Char) (c : Char) (after : List Char) :
    Except Fault (State × List Char) :=
  if st.comment && c ≠ '\n' then .ok (st, ' ' :: before)
  else
    let st := { st with comment := false }
    if st.name ≠ .none then (inName st before c after).map (·, c :: before)
    else if c = '\n' then atFeed st before
    else if c = '#' && st.quote.isNone && st.header = .none then
      .ok ({ st with comment := true }, ' ' :: before)
    else (atChar st before c after).map (·, c :: before)

/-- The text without comments and without line feeds that end no line, from a state on. -/
def run (st : State) (before : List Char) : List Char → Except Fault (List Char)
  | [] => if st.name ≠ .none || st.quote.isSome then .error .document else .ok before.reverse
  | c :: after =>
    match next st before c after with
    | .error fault => .error fault
    | .ok (st, before) => run st before after

/-- **The lines of a document.** -/
def ofChars (cs : List Char) : Except Fault (List (List Char)) :=
  (run {} [] cs).map (·.splitOn '\n')

end Lines

end FeatureLint.Document
