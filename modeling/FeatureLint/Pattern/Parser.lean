import FeatureLint.Pattern.Escape
import FeatureLint.Pattern.Match
import FeatureLint.Pattern.Width
import FeatureLint.Text.Identifier

/-!
# The text of a pattern

Reading a pattern from its text.  An expression is a list of alternatives between bars, an
alternative a row of items, an item a character, a set of characters in square brackets, an escape
after a backslash, an anchor or an expression in brackets, each but an anchor with a repetition
behind it if it has one.  A brace that opens no repetition stands for itself.

The first fault that is met counts.  Some are told only when all has been read: a condition on a
group that does not exist, two alphabets, and a look behind an expression of no fixed length.

The functions that call themselves take a fuel that the length of the text bounds, since each call
leaves less of it.
-/

namespace FeatureLint.Pattern

/-- What is known of the groups of a pattern in the course of reading. -/
structure Groups where
  next : Nat := 1
  names : List (String × Nat) := []
  closed : List (Nat × Width) := []
  /-- Within a look behind, the number of the next group at its start. -/
  lookStart : Option Nat := none
  /-- The numbers of groups that conditions asked for. -/
  asked : List Nat := []
  /-- Whether there is a look behind an expression of no fixed length. -/
  loose : Bool := false
  repeats : Bool := false

namespace Groups

def opened (g : Groups) (name : Option String) : Except Fault (Groups × Nat) :=
  match name with
  | none => .ok ({ g with next := g.next + 1 }, g.next)
  | some name =>
    if (g.names.lookup name).isSome then .error .pattern
    else .ok ({ g with next := g.next + 1, names := (name, g.next) :: g.names }, g.next)

def close (g : Groups) (number : Nat) (r : Regex) : Groups :=
  { g with closed := (number, r.width g.closed) :: g.closed }

def isClosed (g : Groups) (number : Nat) : Bool := (g.closed.lookup number).isSome

/-- Whether a look behind, if there is one, allows to speak of a group: only one that was closed
before it. -/
def inSight (g : Groups) (number : Nat) : Bool :=
  g.lookStart.all fun start => g.isClosed number && number < start

/-- Whether the text of a group can be asked for. -/
def canRepeat (g : Groups) (number : Nat) : Bool := g.isClosed number && g.inSight number

end Groups

/-- A part of a pattern, the groups so far, and what follows the part. -/
abbrev Parsed (α : Type) := α × Groups × List Token

/-! ### Repetitions -/

abbrev Bounds := Nat × Option Nat

/-- The number of repetitions from which on they are not counted. -/
def maxRepeat : Nat := 4294967295

def bound? (digits : List Char) : Except Fault (Option Nat) :=
  if digits.isEmpty then .ok none
  else match Text.Numeral.whole 10 digits with
    | .ok n => if n < maxRepeat then .ok (some n) else .error .repetition
    | .error (.tooLong count) => .error (.tooManyDigits count)
    | .error .malformed => .error .pattern

/-- The digits of the two bounds in braces, and what follows the closing brace, if what follows the
opening brace spells bounds at all. -/
def braces? (ts : List Token) : Option (List Char × List Char × List Token) :=
  let lo := digitsAt Char.isDigit ts.length ts
  match ts, ts.drop lo.length with
  | .plain '}' :: _, _ => none
  | _, .plain '}' :: rest => some (lo, lo, rest)
  | _, .plain ',' :: rest =>
    let hi := digitsAt Char.isDigit rest.length rest
    match rest.drop hi.length with
    | .plain '}' :: rest => some (lo, hi, rest)
    | _ => none
  | _, _ => none

def bounds (lo hi : List Char) (rest : List Token) : Except Fault Bounds := do
  if rest.head? = some .dangling then throw .pattern
  let least := (← bound? lo).getD 0
  match ← bound? hi with
  | some most => if most < least then throw .pattern else return (least, some most)
  | none => return (least, none)

/-- The bounds that a token, and what follows it, give to the item in front of them, if the token
starts a repetition. -/
def bounds? (t : Token) (rest : List Token) : Except Fault (Option (Bounds × List Token)) :=
  match t with
  | .plain '*' => .ok (some ((0, none), rest))
  | .plain '+' => .ok (some ((1, none), rest))
  | .plain '?' => .ok (some ((0, some 1), rest))
  | .plain '{' =>
    match braces? rest with
    | none => .ok none
    | some (lo, hi, rest) => (bounds lo hi rest).map fun b => some (b, rest)
  | _ => .ok none

def preference (ts : List Token) : Preference × List Token :=
  match ts with
  | .plain '?' :: rest => (.shortest, rest)
  | .plain '+' :: rest => (.onlyLongest, rest)
  | _ => (.longest, ts)

/-- Whether an item may be repeated: an anchor may not, nor may a repetition. -/
def isRepeatable : Regex → Bool
  | .anchor _ | .repeated .. => false
  | _ => true

def repeatLast (b : Bounds) (p : Preference) : List Regex → Except Fault (List Regex)
  | [] => .error .pattern
  | item :: found =>
    if isRepeatable item then .ok (.repeated b.1 b.2 p item :: found) else .error .pattern

/-! ### Brackets -/

inductive Bracket where
  | numbered (name : Option String)
  | plain (mode : Mode)
  | atomic
  | ahead (negated : Bool)
  | behind (negated : Bool)
  | condition (group : List Char)
  | same (name : List Char)
  | remark

def name (stop : Char) (ts : List Token) : Except Fault (List Char × List Token) :=
  match until? stop ts with
  | some (name, rest) => if Text.isIdentifier name then .ok (name, rest) else .error .pattern
  | none => .error .pattern

/-- The kind of brackets, by what follows the opening one, and what follows the sign of it. -/
def bracket (mode : Mode) (ts : List Token) : Except Fault (Bracket × List Token) :=
  match ts with
  | .plain '?' :: .plain 'P' :: .plain '<' :: rest =>
    (name '>' rest).map fun (name, rest) => (.numbered (some (String.ofList name)), rest)
  | .plain '?' :: .plain 'P' :: .plain '=' :: rest =>
    (name ')' rest).map fun (name, rest) => (.same name, rest)
  | .plain '?' :: .plain ':' :: rest => .ok (.plain mode, rest)
  | .plain '?' :: .plain '>' :: rest => .ok (.atomic, rest)
  | .plain '?' :: .plain '=' :: rest => .ok (.ahead false, rest)
  | .plain '?' :: .plain '!' :: rest => .ok (.ahead true, rest)
  | .plain '?' :: .plain '<' :: .plain '=' :: rest => .ok (.behind false, rest)
  | .plain '?' :: .plain '<' :: .plain '!' :: rest => .ok (.behind true, rest)
  | .plain '?' :: .plain '#' :: rest =>
    match until? ')' rest with
    | some (_, rest) => .ok (.remark, rest)
    | none => .error .pattern
  | .plain '?' :: .plain '(' :: rest =>
    match until? ')' rest with
    | some (group, rest) => .ok (.condition group, rest)
    | none => .error .pattern
  | .plain '?' :: rest =>
    match switch? rest with
    | some (.group on off, rest) => .ok (.plain (mode.switched on off), rest)
    | _ => .error .pattern
  | _ => .ok (.numbered none, ts)

/-- The number of the group that a condition asks for, and the groups after that. -/
def condition (g : Groups) (group : List Char) : Except Fault (Nat × Groups) :=
  if Text.isIdentifier group then
    match g.names.lookup (String.ofList group) with
    | some number => if g.inSight number then .ok (number, g) else .error .pattern
    | none => .error .pattern
  else
    match Text.Numeral.integer group with
    | .ok (.ofNat (n + 1)) =>
      if g.inSight (n + 1) then .ok (n + 1, { g with asked := (n + 1) :: g.asked })
      else .error .pattern
    | _ => .error .pattern

def sameText (mode : Mode) (g : Groups) (number : Nat) : Except Fault Regex :=
  if g.canRepeat number then .ok (.same mode.letterCase number) else .error .pattern

/-! ### Items -/

def sequence : List Regex → Regex
  | [] => .empty
  | [r] => r
  | r :: rs => .seq r (sequence rs)

/-- The item that a token stands for, if it is no bracket and no repetition. -/
def item (mode : Mode) (g : Groups) (t : Token) (rest : List Token) :
    Except Fault (Regex × List Token) :=
  match t with
  | .plain '.' =>
    .ok (.char ⟨false, .exact, [if mode.dotAll then .all else .except (.one 10)]⟩, rest)
  | .plain '^' => .ok (.anchor (if mode.lines then .lineStart else .textStart), rest)
  | .plain '$' => .ok (.anchor (if mode.lines then .lineEnd else .lastLineEnd), rest)
  | .plain '[' => set mode rest
  | .plain c => .ok (literal mode c.toNat, rest)
  | .escaped c =>
    match escape mode c rest with
    | .error fault => .error fault
    | .ok (.item r, rest) => .ok (r, rest)
    | .ok (.group number, rest) => (sameText mode g number).map (·, rest)
  | .dangling => .error .pattern

def afterSpacing? (mode : Mode) (t : Token) (rest : List Token) : Option (List Token) :=
  match mode.spaced, t with
  | true, .plain c =>
    if isSpacing c then some rest else if c = '#' then some (afterRemark rest) else none
  | _, _ => none

def Groups.lookBehind (g : Groups) : Groups :=
  { g with lookStart := some (g.lookStart.getD g.next) }

/-- The item that a look behind makes, and the groups after it; `before` is where the look behind
started, if it stands in another one. -/
def closeBehind (negated : Bool) (before : Option Nat) (g : Groups) (r : Regex) :
    Regex × Groups :=
  let g := { g with lookStart := before }
  match (r.width g.closed).fixed? with
  | some length => (.behind negated length r, g)
  | none => (.behind negated 0 r, { g with loose := true })

def closing (ts : List Token) : Except Fault (List Token) :=
  match ts with
  | .plain ')' :: rest => .ok rest
  | _ => .error .pattern

mutual

def alternatives : Nat → Mode → Groups → List Token → Except Fault (Parsed Regex)
  | 0, _, _, _ => .error .pattern
  | fuel + 1, mode, g, ts => do
    let (r, g, rest) ← items fuel mode g [] ts
    match rest with
    | .plain '|' :: rest =>
      let (s, g, rest) ← alternatives fuel mode g rest
      return (.alt r s, g, rest)
    | rest => return (r, g, rest)

/-- The items up to a bar, a closing bracket or the end; `found` are those read, last first. -/
def items : Nat → Mode → Groups → List Regex → List Token → Except Fault (Parsed Regex)
  | 0, _, _, _, _ => .error .pattern
  | _, _, g, found, [] => .ok (sequence found.reverse, g, [])
  | fuel + 1, mode, g, found, t :: rest =>
    if t = .plain '|' || t = .plain ')' then .ok (sequence found.reverse, g, t :: rest)
    else
      match afterSpacing? mode t rest with
      | some rest => items fuel mode g found rest
      | none => do
        if let some (b, rest) ← bounds? t rest then
          let (p, after) := preference rest
          let found ← repeatLast b p found
          items fuel mode { g with repeats := true } found after
        else if t = .plain '(' then
          let (r?, g, rest) ← brackets fuel mode g rest
          items fuel mode g (r?.toList ++ found) rest
        else
          let (r, rest) ← item mode g t rest
          items fuel mode g (r :: found) rest

/-- The item behind an opening bracket, up to its closing bracket; a remark is none. -/
def brackets : Nat → Mode → Groups → List Token → Except Fault (Parsed (Option Regex))
  | 0, _, _, _ => .error .pattern
  | fuel + 1, mode, g, ts => do
    let (kind, ts) ← bracket mode ts
    match kind with
    | .remark => return (none, g, ts)
    | .same name =>
      match g.names.lookup (String.ofList name) with
      | some number => return (some (← sameText mode g number), g, ts)
      | none => throw .pattern
    | .numbered name =>
      let (g, number) ← g.opened name
      let (r, g, rest) ← alternatives fuel mode g ts
      return (some (.group (some number) r), g.close number r, ← closing rest)
    | .plain inner =>
      let (r, g, rest) ← alternatives fuel inner g ts
      return (some (.group none r), g, ← closing rest)
    | .atomic =>
      let (r, g, rest) ← alternatives fuel mode g ts
      return (some (.atomic r), g, ← closing rest)
    | .ahead negated =>
      let (r, g, rest) ← alternatives fuel mode g ts
      return (some (.ahead negated r), g, ← closing rest)
    | .behind negated =>
      let (r, inner, rest) ← alternatives fuel mode g.lookBehind ts
      let rest ← closing rest
      let (r, g) := closeBehind negated g.lookStart inner r
      return (some r, g, rest)
    | .condition group =>
      let (number, g) ← condition g group
      let (yes, g, rest) ← items fuel mode g [] ts
      match rest with
      | .plain '|' :: rest =>
        let (no, g, rest) ← items fuel mode g [] rest
        return (some (.ifMatched number yes no), g, ← closing rest)
      | rest => return (some (.ifMatched number yes .empty), g, ← closing rest)

end

/-! ### Patterns -/

/-- The letters at the very front of a pattern that switch its mode, and what follows them.  Remarks
may stand between them, and, in spaced mode, blanks. -/
def leading : Nat → List Char → List Token → Except Fault (List Char × List Token)
  | 0, on, ts => .ok (on, ts)
  | fuel + 1, on, ts =>
    match ts with
    | [] => .ok (on, ts)
    | t :: rest =>
      match afterSpacing? (Mode.switched {} on []) t rest with
      | some rest => leading fuel on rest
      | none =>
        match ts with
        | .plain '(' :: .plain '?' :: .plain '#' :: rest =>
          match until? ')' rest with
          | some (_, rest) => leading fuel on rest
          | none => .error .pattern
        | .plain '(' :: .plain '?' :: rest =>
          match switch? rest with
          | some (.whole more, rest) => leading fuel (on ++ more) rest
          | _ => .ok (on, ts)
        | _ => .ok (on, ts)

/-- What is told about a pattern when all of it has been read. -/
def lateFault? (on : List Char) (ts : List Token) (g : Groups) (rest : List Token) :
    Option Fault :=
  if ts.contains .dangling then some .pattern
  else if on.contains 'a' && on.contains 'u' then some .alphabets
  else if !rest.isEmpty || g.asked.any (g.next ≤ ·) || g.loose
      || (on.contains 't' && g.repeats) then
    some .pattern
  else none

/-- **The pattern that a text spells.** -/
def ofString (s : String) : Except Fault Pattern := do
  let ts := tokens s.toList
  let (on, rest) ← leading (ts.length + 1) [] ts
  let (regex, g, rest) ← alternatives (4 * ts.length + 4) (Mode.switched {} on []) {} rest
  match lateFault? on ts g rest with
  | some fault => throw fault
  | none => return ⟨s, regex⟩

end FeatureLint.Pattern
