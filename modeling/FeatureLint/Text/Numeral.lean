import FeatureLint.Text.Blank

/-!
# Numerals

Reading whole numbers.  `Numeral.integer` takes what a person may type for a number: blanks around
it, a sign, decimal digits of any script, leading zeros, and single low lines between digits.
`Numeral.prefixed` takes the same, and the digits of another base behind a zero and a letter that
names the base.  Both refuse a row of more than `Numeral.maxDigits` digits, unless the base is a
power of two.  `Numeral.based?` is for digits in a base from two to sixteen, without any of these
liberties.
-/

namespace FeatureLint.Text

/-- The decimal digits outside ASCII: stretches of code points whose values run from zero to nine,
over and over (Unicode standard, version 14). -/
def digitRanges : List (Nat × Nat) := [
  (0x660, 0x669), (0x6f0, 0x6f9), (0x7c0, 0x7c9), (0x966, 0x96f), (0x9e6, 0x9ef),
  (0xa66, 0xa6f), (0xae6, 0xaef), (0xb66, 0xb6f), (0xbe6, 0xbef), (0xc66, 0xc6f),
  (0xce6, 0xcef), (0xd66, 0xd6f), (0xde6, 0xdef), (0xe50, 0xe59), (0xed0, 0xed9),
  (0xf20, 0xf29), (0x1040, 0x1049), (0x1090, 0x1099), (0x17e0, 0x17e9), (0x1810, 0x1819),
  (0x1946, 0x194f), (0x19d0, 0x19d9), (0x1a80, 0x1a89), (0x1a90, 0x1a99), (0x1b50, 0x1b59),
  (0x1bb0, 0x1bb9), (0x1c40, 0x1c49), (0x1c50, 0x1c59), (0xa620, 0xa629), (0xa8d0, 0xa8d9),
  (0xa900, 0xa909), (0xa9d0, 0xa9d9), (0xa9f0, 0xa9f9), (0xaa50, 0xaa59), (0xabf0, 0xabf9),
  (0xff10, 0xff19), (0x104a0, 0x104a9), (0x10d30, 0x10d39), (0x11066, 0x1106f),
  (0x110f0, 0x110f9), (0x11136, 0x1113f), (0x111d0, 0x111d9), (0x112f0, 0x112f9),
  (0x11450, 0x11459), (0x114d0, 0x114d9), (0x11650, 0x11659), (0x116c0, 0x116c9),
  (0x11730, 0x11739), (0x118e0, 0x118e9), (0x11950, 0x11959), (0x11c50, 0x11c59),
  (0x11d50, 0x11d59), (0x11da0, 0x11da9), (0x16a60, 0x16a69), (0x16ac0, 0x16ac9),
  (0x16b50, 0x16b59), (0x1d7ce, 0x1d7ff), (0x1e140, 0x1e149), (0x1e2f0, 0x1e2f9),
  (0x1e950, 0x1e959), (0x1fbf0, 0x1fbf9)]

def digitValue? (c : Char) : Option Nat :=
  if c.isDigit then some (c.toNat - 0x30)
  else if c.toNat < 0x80 then none
  else (digitRanges.find? fun (first, last) => first ≤ c.toNat && c.toNat ≤ last).map
    fun (first, _) => (c.toNat - first) % 10

def hexValue? (c : Char) : Option Nat :=
  if c.isDigit then some (c.toNat - 0x30)
  else if 'a' ≤ c && c ≤ 'f' then some (c.toNat - 0x57)
  else if 'A' ≤ c && c ≤ 'F' then some (c.toNat - 0x37)
  else none

/-- The blanks that may stand around a numeral: all but the four separators of ASCII. -/
def isNumeralBlank (c : Char) : Bool := isBlank c && !(0x1c ≤ c.toNat && c.toNat ≤ 0x1f)

namespace Numeral

inductive Flaw where
  | malformed
  | tooLong (count : Nat)
  deriving DecidableEq, Repr

/-- The greatest number of digits that is read. -/
def maxDigits : Nat := 4300

/-- The value of a row of digits, most significant first. -/
def ofDigits (base : Nat) (digits : List Nat) : Nat :=
  digits.foldl (fun n d => base * n + d) 0

def sign : List Char → Bool × List Char
  | '-' :: rest => (true, rest)
  | '+' :: rest => (false, rest)
  | rest => (false, rest)

def signed (negative : Bool) (n : Nat) : Int := if negative then -(n : Int) else n

/-- The value of a digit of any script in a base up to sixteen. -/
def digit? (base : Nat) (c : Char) : Option Nat :=
  ((digitValue? c).orElse fun _ => hexValue? c).filter (· < base)

/-- Whether low lines stand only between digits, one at a time. -/
def wellSpaced (run : List Char) : Bool := (run.splitOn '_').all (!·.isEmpty)

def isUnlimited (base : Nat) : Bool := base = 2 || base = 8 || base = 16

/-- The number that the digits at the front spell in a base, and what follows them. -/
def leading (base : Nat) (cs : List Char) : Except Flaw (Nat × List Char) :=
  let inRun := fun c => c = '_' || (digit? base c).isSome
  let run := cs.takeWhile inRun
  let digits := run.filterMap (digit? base)
  if !wellSpaced run then .error .malformed
  else if !isUnlimited base && maxDigits < digits.length then .error (.tooLong digits.length)
  else .ok (ofDigits base digits, cs.dropWhile inRun)

/-- The number that digits spell in a base, if nothing but blanks follows them. -/
def whole (base : Nat) (cs : List Char) : Except Flaw Nat :=
  match leading base cs with
  | .error flaw => .error flaw
  | .ok (n, rest) => if rest.all isNumeralBlank then .ok n else .error .malformed

def behindSign (read : List Char → Except Flaw Nat) (cs : List Char) : Except Flaw Int :=
  let (negative, rest) := sign (cs.dropWhile isNumeralBlank)
  (read rest).map (signed negative)

/-- **The whole number that a text spells** in base ten. -/
def integer (cs : List Char) : Except Flaw Int := behindSign (whole 10) cs

def baseOf? (c : Char) : Option Nat :=
  if c = 'x' || c = 'X' then some 16
  else if c = 'o' || c = 'O' then some 8
  else if c = 'b' || c = 'B' then some 2
  else none

/-- The number that digits spell in the base that they name, or else in base ten.  Of the numbers
in base ten only zero may have a zero in front.  A low line may follow the letter. -/
def wholePrefixed (cs : List Char) : Except Flaw Nat :=
  match cs with
  | c :: d :: rest =>
    if digitValue? c = some 0 then
      match baseOf? d, rest with
      | some base, '_' :: rest => whole base rest
      | some base, rest => whole base rest
      | none, _ =>
        match whole 10 cs with
        | .ok (_ + 1) => .error .malformed
        | read => read
    else whole 10 cs
  | _ => whole 10 cs

def prefixed (cs : List Char) : Except Flaw Int := behindSign wholePrefixed cs

def based? (base : Nat) (cs : List Char) : Option Nat :=
  match cs with
  | [] => none
  | _ => do
    let ds ← cs.mapM hexValue?
    if ds.all (· < base) then some (ofDigits base ds) else none

end Numeral

end FeatureLint.Text
