import FeatureLint.Measure
import FeatureLint.Text.Numeral
import FeatureLint.Text.Search

/-!
# Numbers in a document

How a document spells numbers.  `decimal?` reads a number that may have a point and an exponent, or
be infinite or undefined, with blanks around it and single low lines between digits.  `number`
reads the value of a pair or a member of a list, where low lines may stand anywhere.  Which number
has a point is told by its characters before it is read: one that holds a point, or an `e` without
an `x`.

A pair is stricter than a list about zeros and low lines: `isTidy` tells the numbers that it takes.
-/

namespace FeatureLint.Document

def lower (cs : List Char) : List Char := cs.map Char.toLower

/-- Whether a number has no superfluous zeros and low lines. -/
def isTidy (cs : List Char) : Bool :=
  let cs := Text.trim cs
  match cs with
  | [] => false
  | ['_'] => false
  | [_] => true
  | c :: d :: _ =>
    let afterSign := if c = '+' || c = '-' then cs.tail else cs
    c ≠ '_' && cs.getLast? ≠ some '_'
      && !Text.occursIn "_.".toList cs && !Text.occursIn "._".toList cs
      && (c ≠ '0' || ['.', 'o', 'b', 'x'].contains d)
      && (c ≠ '+' && c ≠ '-' || afterSign.head? ≠ some '0' || afterSign.length ≤ 1
        || afterSign[1]? = some '.')
      && !Text.occursIn "__".toList afterSign

def linesBetweenDigits : List Char → Bool
  | [] => true
  | [c] => c ≠ '_'
  | '_' :: _ => false
  | c :: '_' :: d :: rest =>
    (Text.digitValue? c).isSome && (Text.digitValue? d).isSome && linesBetweenDigits (d :: rest)
  | _ :: rest => linesBetweenDigits rest

def digitsAt (cs : List Char) : List Nat × List Char :=
  (cs.takeWhile (Text.digitValue? · |>.isSome) |>.filterMap Text.digitValue?,
    cs.dropWhile (Text.digitValue? · |>.isSome))

def fractionAt (cs : List Char) : List Nat × List Char :=
  match cs with
  | '.' :: rest => digitsAt rest
  | _ => ([], cs)

def exponent? (cs : List Char) : Option Int :=
  match cs with
  | [] => some 0
  | c :: rest =>
    if c = 'e' || c = 'E' then
      let (negative, rest) := Text.Numeral.sign rest
      match digitsAt rest with
      | (d :: digits, []) =>
        some (Text.Numeral.signed negative (Text.Numeral.ofDigits 10 (d :: digits)))
      | _ => none
    else none

def positional? (negative : Bool) (cs : List Char) : Option Measure :=
  let (whole, rest) := digitsAt cs
  let (fraction, rest) := fractionAt rest
  if whole.isEmpty && fraction.isEmpty then none
  else (exponent? rest).map fun e =>
    .ofDecimal ⟨negative, Text.Numeral.ofDigits 10 (whole ++ fraction), e - fraction.length⟩

/-- **The number that a text spells** with a point, an exponent or a name. -/
def decimal? (cs : List Char) : Option Measure :=
  let cs := (cs.dropWhile Text.isNumeralBlank).reverse.dropWhile Text.isNumeralBlank |>.reverse
  if !linesBetweenDigits cs then none
  else
    let (negative, rest) := Text.Numeral.sign (cs.filter (· ≠ '_'))
    let name := lower rest
    if name = "inf".toList || name = "infinity".toList then some (.infinite negative)
    else if name = "nan".toList then some .undefined
    else positional? negative rest

/-- A number of a document: a whole one, or one with a point. -/
inductive Number where
  | int (n : Int)
  | measure (m : Measure)
  deriving DecidableEq, Repr

def Number.fromZero : Number → Number
  | int n => .int (-n)
  | measure m => .measure m.fromZero

/-- Whether a number, without its sign, is written as one with a point. -/
def isPointed (cs : List Char) : Bool :=
  cs.contains '.' || (!cs.contains 'x' && (cs.contains 'e' || cs.contains 'E'))

def unsigned? (cs : List Char) : Option Number :=
  if isPointed cs then
    if (cs.dropWhile (· ≠ '.')).length = 1 || !(cs.take 1).all Char.isDigit then none
    else (decimal? cs).map .measure
  else if lower cs = "inf".toList || lower cs = "nan".toList then (decimal? cs).map .measure
  else (Text.Numeral.prefixed cs).toOption.map .int

/-- The number that the value of a pair or a member of a list spells. -/
def number? (cs : List Char) : Option Number :=
  let (negative, rest) := Text.Numeral.sign cs
  (unsigned? (rest.filter (· ≠ '_'))).map fun n => if negative then n.fromZero else n

end FeatureLint.Document
