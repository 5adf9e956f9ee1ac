import FeatureLint.Fault
import FeatureLint.Pattern.Basic

/-!
# Modes of a pattern

Letters at the start of a pattern, or at the start of a group, switch modes on and off: whether
letters are taken in either case, whether anchors are those of each line, whether the dot takes a
line feed, whether blanks and remarks between items are passed over, and whether letters and digits
are those of ASCII.

A pattern is read token by token: a backslash and the character behind it are one token.
-/

namespace FeatureLint.Pattern

inductive Token where
  | plain (c : Char)
  | escaped (c : Char)
  | dangling
  deriving DecidableEq, Repr

def tokens : List Char → List Token
  | [] => []
  | [c] => [if c = '\\' then .dangling else .plain c]
  | c :: d :: rest => if c = '\\' then .escaped d :: tokens rest else .plain c :: tokens (d :: rest)

def Token.chars : Token → List Char
  | plain c => [c]
  | escaped c => ['\\', c]
  | dangling => ['\\']

/-- The character of a token that is not escaped. -/
def Token.char? : Token → Option Char
  | plain c => some c
  | _ => none

/-- The characters in front of a certain one, and the tokens behind it. -/
def until? (stop : Char) : List Token → Option (List Char × List Token)
  | [] => none
  | t :: rest =>
    if t = .plain stop then some ([], rest)
    else (until? stop rest).map fun (cs, rest) => (t.chars ++ cs, rest)

/-- How letters, lines, blanks and the dot are taken. -/
structure Mode where
  caseless : Bool := false
  /-- The anchors of the text are those of each line. -/
  lines : Bool := false
  dotAll : Bool := false
  /-- Blanks and remarks between items say nothing. -/
  spaced : Bool := false
  ascii : Bool := false
  deriving DecidableEq, Repr

namespace Mode

def letterCase (mode : Mode) : LetterCase :=
  if !mode.caseless then .exact else if mode.ascii then .ascii else .any

def alphabet (mode : Mode) : Alphabet := if mode.ascii then .ascii else .full

def set (on : Bool) (mode : Mode) : Char → Mode
  | 'i' => { mode with caseless := on }
  | 'm' => { mode with lines := on }
  | 's' => { mode with dotAll := on }
  | 'x' => { mode with spaced := on }
  | 'a' => { mode with ascii := on }
  | 'u' => { mode with ascii := !on }
  | _ => mode

end Mode

def isModeLetter (c : Char) : Bool := "imsxatuL".toList.contains c

def modeLetters (ts : List Token) : List Char × List Token :=
  let inMode := fun t : Token => t.char?.any isModeLetter
  (ts.takeWhile inMode |>.filterMap Token.char?, ts.dropWhile inMode)

/-- What letters switch. -/
inductive Switch where
  | whole (on : List Char)
  | group (on off : List Char)

/-- Whether letters can be switched on together: not both alphabets, and none that is for octets. -/
def fitTogether (on : List Char) : Bool :=
  !on.contains 'L' && !(on.contains 'a' && on.contains 'u')

def fitGroup (on off : List Char) : Bool :=
  !on.contains 't' && !off.contains 't' && !on.any off.contains

/-- Whether letters can be switched off: not those that choose an alphabet. -/
def canBeOff (off : List Char) : Bool :=
  !off.isEmpty && !off.any fun c => c = 'a' || c = 'u' || c = 'L'

/-- The letters at the start of a pattern or a group, behind the question mark, and what follows the
bracket or the colon that ends them. -/
def switch? (ts : List Token) : Option (Switch × List Token) :=
  let (on, rest) := modeLetters ts
  if !fitTogether on then none
  else match rest with
    | .plain ')' :: rest => if on.isEmpty then none else some (.whole on, rest)
    | .plain ':' :: rest =>
      if !on.isEmpty && fitGroup on [] then some (.group on [], rest) else none
    | .plain '-' :: rest =>
      let (off, rest) := modeLetters rest
      match rest with
      | .plain ':' :: rest =>
        if canBeOff off && fitGroup on off then some (.group on off, rest) else none
      | _ => none
    | _ => none

def Mode.switched (mode : Mode) (on off : List Char) : Mode :=
  off.foldl (Mode.set false) (on.foldl (Mode.set true) mode)

def isSpacing (c : Char) : Bool := c = ' ' || (0x09 ≤ c.toNat && c.toNat ≤ 0x0d)

/-- What follows a remark in spaced mode, which goes to the end of the line. -/
def afterRemark (ts : List Token) : List Token := (ts.dropWhile (· ≠ .plain '\n')).tail

end FeatureLint.Pattern
