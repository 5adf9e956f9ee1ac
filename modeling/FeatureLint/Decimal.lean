/-!
# Decimal numbers

A setting may be written with a decimal point.  A `Decimal` keeps its digits and the place of the
point, so that it can be compared and shown without loss: positionally, with at least one digit on
either side of the point, unless it is so large or so small that it takes an exponent.
-/

namespace FeatureLint

/-- The number `±digits · 10^exponent`. -/
structure Decimal where
  negative : Bool
  digits : Nat
  exponent : Int
  deriving DecidableEq, Repr

namespace Decimal

/-- The digits with the trailing zeros moved into the exponent; `fuel` bounds their number. -/
def shorten : Nat → Nat → Int → Nat × Int
  | 0, digits, exponent => (digits, exponent)
  | fuel + 1, digits, exponent =>
    if digits ≠ 0 ∧ digits % 10 = 0 then shorten fuel (digits / 10) (exponent + 1)
    else (digits, exponent)

/-- The same number without trailing zeros. -/
def normal (d : Decimal) : Decimal :=
  if d.digits = 0 then { d with exponent := 0 }
  else
    let (digits, exponent) := shorten (Nat.toDigits 10 d.digits).length d.digits d.exponent
    { d with digits, exponent }

def ofInt (n : Int) : Decimal := ⟨n < 0, n.natAbs, 0⟩

/-- The numerator over the power of ten that makes it whole. -/
def scaled (d : Decimal) (shift : Nat) : Int :=
  let n : Int := d.digits * Nat.pow 10 (d.exponent + shift).toNat
  if d.negative then -n else n

def lt (a b : Decimal) : Bool :=
  let shift := max (-a.exponent).toNat (-b.exponent).toNat
  a.scaled shift < b.scaled shift

def isZero (d : Decimal) : Bool := d.digits == 0

/-- The exponent as it is written: with its sign and at least two digits. -/
def exponentText (e : Int) : String :=
  let digits := toString e.natAbs
  (if e < 0 then "-" else "+") ++ (if digits.length < 2 then "0" ++ digits else digits)

def text (d : Decimal) : String :=
  let n := d.normal
  let digits := Nat.toDigits 10 n.digits
  -- the number of digits in front of the point
  let point : Int := digits.length + n.exponent
  let body :=
    if n.digits = 0 then "0.0"
    else if 16 < point ∨ point < -3 then
      let fraction := digits.tail
      String.ofList (digits.take 1 ++ (if fraction.isEmpty then [] else '.' :: fraction)) ++ "e"
        ++ exponentText (point - 1)
    else if point ≤ 0 then
      "0." ++ String.ofList (List.replicate (-point).toNat '0' ++ digits)
    else if (digits.length : Int) ≤ point then
      String.ofList (digits ++ List.replicate (point - digits.length).toNat '0') ++ ".0"
    else
      String.ofList (digits.take point.toNat ++ '.' :: digits.drop point.toNat)
  if d.negative then "-" ++ body else body

end Decimal

end FeatureLint
