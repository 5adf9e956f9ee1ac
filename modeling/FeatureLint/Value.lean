import FeatureLint.Measure
import FeatureLint.Moment

/-!
# Values of settings

Settings come from files and from other programs, which may put any value in any place.  A `Value`
is what can stand there: a scalar, a list or a table.  Nothing checks a value when it is set.  What
it means is decided when it is used: as a flag (`isTruthy`), as a ceiling, as a list of names.
-/

namespace FeatureLint

inductive Scalar where
  | null
  | bool (b : Bool)
  | int (n : Int)
  | measure (m : Measure)
  | moment (m : Moment)
  | text (s : String)
  deriving DecidableEq, Repr

inductive TableForm where
  /-- Under a header of its own, or as part of another one. -/
  | plain
  | braced
  deriving DecidableEq, Repr

inductive Value where
  | scalar (s : Scalar)
  | list (items : List Value)
  | table (form : TableForm) (fields : List (String × Value))
  deriving Inhabited, Repr

namespace Scalar

/-- The number that a scalar stands for: a truth value counts as zero or one. -/
def number? : Scalar → Option Measure
  | bool b => some (.ofInt (if b then 1 else 0))
  | int n => some (.ofInt n)
  | measure m => some m
  | _ => none

/-- Whether two scalars are one member of a set: numbers by value, all else by identity. -/
def same (a b : Scalar) : Bool :=
  match a.number?, b.number? with
  | some x, some y => x.same y
  | _, _ => a = b

/-- The rank of a type in the order of the members of a set: nothing, numbers, dates and times,
texts. -/
def rank : Scalar → Nat
  | null => 0
  | bool _ | int _ | measure _ => 1
  | moment _ => 2
  | text _ => 3

def le (a b : Scalar) : Bool :=
  if a.rank ≠ b.rank then a.rank < b.rank
  else
    match a, b with
    | text s, text t => s ≤ t
    | moment m, moment n => m.text ≤ n.text
    | _, _ =>
      match a.number?, b.number? with
      | some x, some y => !y.lt x
      | _, _ => true

end Scalar

namespace Value

abbrev bool (b : Bool) : Value := scalar (.bool b)

abbrev int (n : Int) : Value := scalar (.int n)

abbrev text (s : String) : Value := scalar (.text s)

def isNull : Value → Bool
  | scalar .null => true
  | _ => false

def typeName : Value → String
  | scalar .null => "NoneType"
  | scalar (.bool _) => "bool"
  | scalar (.int _) => "int"
  | scalar (.measure _) => "float"
  | scalar (.moment m) => m.typeName
  | scalar (.text _) => "str"
  | list _ => "list"
  | table .plain _ => "dict"
  | table .braced _ => "DynamicInlineTableDict"

/-- Whether a value, taken as a flag, is on: zero and whatever is empty are off. -/
def isTruthy : Value → Bool
  | scalar .null => false
  | scalar (.bool b) => b
  | scalar (.int n) => n ≠ 0
  | scalar (.measure m) => !m.isZero
  | scalar (.moment _) => true
  | scalar (.text s) => s ≠ ""
  | list items => !items.isEmpty
  | table _ fields => !fields.isEmpty

def number? : Value → Option Measure
  | scalar s => s.number?
  | _ => none

/-- How a number is shown in a message; nothing else is ever shown there. -/
def shown : Value → String
  | scalar (.bool b) => if b then "True" else "False"
  | scalar (.int n) => toString n
  | scalar (.measure m) => m.text
  | scalar (.moment m) => m.text
  | scalar (.text s) => s
  | v => v.typeName

def field? (key : String) : List (String × Value) → Option Value
  | [] => none
  | (k, v) :: fields => if k = key then some v else field? key fields

end Value

end FeatureLint
