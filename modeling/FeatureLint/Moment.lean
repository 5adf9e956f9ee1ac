import FeatureLint.Text.Numeral

/-!
# Dates and times

A project file may hold dates, times of day, and both together.  `Moment.ofDate?` reads a date, or a
date and a time, by the columns that its parts stand in: whatever stands between them is not looked
at, but for one hyphen that has to be there somewhere.  `Moment.ofTime?` reads a time of day at the
front of a text.  A part that is out of range makes no moment.
-/

namespace FeatureLint

inductive Moment where
  | date (year month day : Int)
  | dateTime (year month day hour minute second micro : Int)
  | time (hour minute second micro : Int)
  deriving DecidableEq, Repr

namespace Moment

def typeName : Moment → String
  | date .. => "datetime.date"
  | dateTime .. => "datetime.datetime"
  | time .. => "datetime.time"

def hasDate : Moment → Bool
  | time .. => false
  | _ => true

def isLeap (year : Int) : Bool := year % 4 = 0 && (year % 100 ≠ 0 || year % 400 = 0)

def daysIn (year month : Int) : Int :=
  if month = 2 then (if isLeap year then 29 else 28)
  else if month = 4 || month = 6 || month = 9 || month = 11 then 30
  else 31

def isDate (year month day : Int) : Bool :=
  1 ≤ year && year ≤ 9999 && 1 ≤ month && month ≤ 12 && 1 ≤ day && day ≤ daysIn year month

def isTime (hour minute second micro : Int) : Bool :=
  0 ≤ hour && hour ≤ 23 && 0 ≤ minute && minute ≤ 59 && 0 ≤ second && second ≤ 59
    && 0 ≤ micro && micro ≤ 999999

/-- The number in the columns from `first` on, up to `stop`. -/
def column? (cs : List Char) (first stop : Nat) : Option Int :=
  (Text.Numeral.integer ((cs.take stop).drop first)).toOption

/-- The millionths of a second that digits behind a point spell; too many digits are cut. -/
def fraction (cs : List Char) : Int :=
  match Text.Numeral.integer cs with
  | .ok n =>
    if cs.length ≤ 6 then n * Nat.pow 10 (6 - cs.length) else n.tdiv (Nat.pow 10 (cs.length - 6))
  | .error _ => 0

def isOffset (cs : List Char) : Bool := (column? cs 1 3).isSome && (column? cs 4 6).isSome

/-- The millionths of a second behind a date and a time: the digits behind a point, up to a time
zone.  They count only if they are digits and the time zone is one. -/
def micro (cs : List Char) : Int :=
  match cs.drop 19 with
  | '.' :: rest =>
    if rest.getLast? = some 'Z' || rest.getLast? = some 'z' then fraction rest.dropLast
    else
      let mark := if rest.contains '+' then '+' else '-'
      let zone := rest.dropWhile (· ≠ mark)
      if zone.isEmpty || isOffset zone then fraction (rest.takeWhile (· ≠ mark)) else 0
  | _ => 0

def ofDate? (cs : List Char) : Option Moment := do
  if !cs.tail.contains '-' then none
  let year ← column? cs 0 4
  let month ← column? cs 5 7
  let day ← column? cs 8 10
  if !isDate year month day then none
  if cs.length = 10 then return date year month day
  let hour ← column? cs 11 13
  let minute ← column? cs 14 16
  let second ← column? cs 17 19
  if !isTime hour minute second (micro cs) then none
  return dateTime year month day hour minute second (micro cs)

def pair (a b : Char) : Int := 10 * (a.toNat - 0x30 : Nat) + (b.toNat - 0x30 : Nat)

/-- The parts of a time of day at the front of a text, whether they are in range or not. -/
def timeParts? (cs : List Char) : Option (Int × Int × Int × Int) :=
  match cs with
  | a :: b :: ':' :: c :: d :: ':' :: e :: f :: rest =>
    if [a, b, c, d, e, f].all Char.isDigit then
      let digits := match rest with
        | '.' :: rest => (rest.take 6).takeWhile Char.isDigit
        | _ => []
      let micro := if 3 ≤ digits.length then (Text.Numeral.based? 10 digits).getD 0 else 0
      some (pair a b, pair c d, pair e f, micro)
    else none
  | _ => none

/-- Whether a text starts with what looks like a time of day. -/
def startsWithTime (cs : List Char) : Bool := (timeParts? cs).isSome

/-- The time of day at the front of a text. -/
def ofTime? (cs : List Char) : Option Moment := do
  let (hour, minute, second, micro) ← timeParts? cs
  if isTime hour minute second micro then return time hour minute second micro else none

def padded (width : Nat) (n : Int) : String :=
  let digits := toString n
  String.ofList (List.replicate (width - digits.length) '0') ++ digits

def timeText (hour minute second micro : Int) : String :=
  padded 2 hour ++ ":" ++ padded 2 minute ++ ":" ++ padded 2 second
    ++ (if micro = 0 then "" else "." ++ padded 6 micro)

def dateText (year month day : Int) : String :=
  padded 4 year ++ "-" ++ padded 2 month ++ "-" ++ padded 2 day

def text : Moment → String
  | date year month day => dateText year month day
  | dateTime year month day hour minute second micro =>
    dateText year month day ++ " " ++ timeText hour minute second micro
  | time hour minute second micro => timeText hour minute second micro

end Moment

end FeatureLint
