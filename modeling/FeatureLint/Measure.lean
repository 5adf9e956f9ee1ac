import FeatureLint.Decimal

/-!
# Measures

A setting may be written with a decimal point.  It then stands for the nearest number that
sixty-four bits hold: a significand of fifty-three bits times a power of two, with a half going to
the even neighbour.  Numbers that are too great are infinite, and there is one that is none.

A measure is kept by its *shortest* digits: the fewest that are nearer to it than to any other
number of sixty-four bits, and of those the ones nearest to it.  So `0.1` is shown as it was
written, and `1.00000000000000000001` is shown as `1.0`.
-/

namespace FeatureLint

/-- A number of sixty-four bits. -/
inductive Measure where
  /-- A number, by its shortest digits. -/
  | finite (d : Decimal)
  | infinite (negative : Bool)
  | undefined
  deriving DecidableEq, Repr

namespace Measure

/-- The quotient as a whole number, to nearest, a half to even. -/
def divideToEven (num den : Nat) : Nat :=
  let quotient := num / den
  let double := 2 * (num % den)
  if den < double || (double = den && quotient % 2 = 1) then quotient + 1 else quotient

/-- The quotient of a fraction by a power of a base, as a fraction. -/
def unscale (base num den : Nat) : Int → Nat × Nat
  | .ofNat k => (num, den * base.pow k)
  | .negSucc k => (num * base.pow (k + 1), den)

def precision : Nat := 53

def minExponent : Int := -1074

/-- The exponent of two from which on a number is infinite. -/
def maxExponent : Nat := 1024

/-- The significand `m` and the exponent `q` of the number `m · 2^q` nearest to a positive
fraction. -/
def nearest (num den : Nat) : Nat × Int :=
  let guess : Int := (num.log2 : Int) - den.log2 - precision
  let (n, d) := unscale 2 num den guess
  let exact := if d * Nat.pow 2 precision ≤ n then guess + 1 else guess
  let q := max exact minExponent
  let (n, d) := unscale 2 num den q
  let m := divideToEven n d
  if m = Nat.pow 2 precision then (Nat.pow 2 (precision - 1), q + 1) else (m, q)

/-- The number of digits in front of the point of a fraction; zeros behind the point count
against it. -/
def pointOf (num den : Nat) : Int :=
  if den ≤ num then (Nat.toDigits 10 (num / den)).length
  else 1 - ((Nat.toDigits 10 (den / num)).length : Int)

/-- The multiple of `10^g` next to a positive fraction that has the given nearest number, if one of
its two neighbours does; of two, the nearer one, and the even one of two that are equally near. -/
def onGrid? (target : Nat × Int) (num den : Nat) (g : Int) : Option Decimal :=
  let (n, d) := unscale 10 num den g
  let low := n / d
  let hits := fun k : Nat =>
    k ≠ 0 && (let (n, d) := unscale 10 k 1 (-g); nearest n d = target)
  let double := 2 * (n % d)
  let first := if d < double || (double = d && low % 2 = 1) then low + 1 else low
  let second := if first = low then low + 1 else low
  if hits first then some ⟨false, first, g⟩
  else if hits second then some ⟨false, second, g⟩
  else none

/-- The fewest digits that name the number `m · 2^q`. -/
def shortest (m : Nat) (q : Int) : Option Decimal :=
  let (num, den) := unscale 2 m 1 (-q)
  let point := pointOf num den
  (List.range 17).findSome? fun n => onGrid? (m, q) num den (point - (n + 1 : Nat))

/-- How far from the point the first digit of a number may stand before the number is taken for
infinite or for zero without more ado. -/
def reach : Int := 400

/-- **The number of sixty-four bits nearest to a decimal number.** -/
def ofDecimal (d : Decimal) : Measure :=
  let zero : Measure := .finite ⟨d.negative, 0, 0⟩
  let point : Int := (Nat.toDigits 10 d.digits).length + d.exponent
  if d.digits = 0 || point < -reach then zero
  else if reach < point then .infinite d.negative
  else
    let (num, den) := unscale 10 d.digits 1 (-d.exponent)
    let (m, q) := nearest num den
    if m = 0 then zero
    else if 0 ≤ q && Nat.pow 2 maxExponent ≤ m * Nat.pow 2 q.toNat then .infinite d.negative
    else
      match shortest m q with
      | some s => .finite { s with negative := d.negative }
      | none => .undefined

def ofInt (n : Int) : Measure := .finite (.ofInt n)

/-- Zero less the number: the opposite, but for zero, which has no sign then. -/
def fromZero : Measure → Measure
  | finite d => .finite { d with negative := !d.negative && d.digits ≠ 0 }
  | infinite negative => .infinite !negative
  | undefined => .undefined

def lt : Measure → Measure → Bool
  | undefined, _ => false
  | _, undefined => false
  | infinite a, infinite b => a && !b
  | infinite a, finite _ => a
  | finite _, infinite b => !b
  | finite a, finite b => a.lt b

def same : Measure → Measure → Bool
  | undefined, _ => false
  | _, undefined => false
  | a, b => !a.lt b && !b.lt a

def isZero : Measure → Bool
  | finite d => d.isZero
  | _ => false

def text : Measure → String
  | finite d => d.text
  | infinite negative => if negative then "-inf" else "inf"
  | undefined => "nan"

end Measure

end FeatureLint
