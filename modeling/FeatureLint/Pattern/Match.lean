import FeatureLint.Pattern.Basic

/-!
# Matching patterns

Finding a regular expression in a text.  A match is looked for by trying one way after the other,
the preferred ones first: an earlier alternative before a later one, a longer repetition before a
shorter one, unless it is lazy.  `Regex.run` takes what is to be done behind the expression as a
*continuation*, and the first way wins on which the continuation succeeds.

An expression that is repeated may match the empty text.  Beyond the least number of repetitions,
such a match ends the repetition, so no way is infinite: `more` takes a fuel that the length of the
text bounds.
-/

namespace FeatureLint

/-- Where groups started and ended, the latest place of each in front. -/
structure Marks where
  starts : List (Nat × Nat) := []
  stops : List (Nat × Nat) := []
  deriving DecidableEq, Repr

namespace Marks

def start (m : Marks) (number i : Nat) : Marks := { m with starts := (number, i) :: m.starts }

def stop (m : Marks) (number i : Nat) : Marks := { m with stops := (number, i) :: m.stops }

def span? (m : Marks) (number : Nat) : Option (Nat × Nat) :=
  match m.starts.lookup number, m.stops.lookup number with
  | some i, some j => if i ≤ j then some (i, j) else none
  | _, _ => none

end Marks

namespace Regex

/-- What is done from a position on: where it ends, if it succeeds. -/
abbrev Continuation := Nat → Marks → Option (Nat × Marks)

def finished : Continuation := fun i m => some (i, m)

def orElse (first : Option (Nat × Marks)) (second : Unit → Option (Nat × Marks)) :
    Option (Nat × Marks) :=
  match first with
  | some found => some found
  | none => second ()

/-- A step that is done exactly so often. -/
def times (step : Continuation → Continuation) : Nat → Continuation → Continuation
  | 0, k => k
  | n + 1, k => step (times step n k)

/-- A step that is done as often as it can, but at most so often, or, if `shortest`, as seldom; it
is not done again from the position `last`. -/
def more (step : Continuation → Continuation) (shortest : Bool) :
    Nat → Option Nat → Option Nat → Continuation → Continuation
  | 0, _, _, k => k
  | fuel + 1, left, last, k => fun i m =>
    let again := step (more step shortest fuel (left.map (· - 1)) (some i) k)
    if left = some 0 || last = some i then k i m
    else if shortest then orElse (k i m) fun _ => again i m
    else orElse (again i m) fun _ => k i m

/-- Where a step ends that is done exactly so often, each time in its first way. -/
def firstTimes (step : Continuation) : Nat → Continuation
  | 0 => finished
  | n + 1 => fun i m =>
    match step i m with
    | some (j, m) => firstTimes step n j m
    | none => none

/-- Where a step ends that is done as often as it can, but at most so often, each time in its first
way. -/
def firstMore (step : Continuation) : Nat → Option Nat → Continuation
  | 0, _ => finished
  | fuel + 1, left => fun i m =>
    if left = some 0 then some (i, m)
    else
      match step i m with
      | none => some (i, m)
      | some (j, m) => if j = i then some (j, m) else firstMore step fuel (left.map (· - 1)) j m

def sameText (letterCase : LetterCase) (text : Array Char) (i j length : Nat) : Bool :=
  (List.range length).all fun n =>
    match text[i + n]?, text[j + n]? with
    | some c, some d => letterCase.key c.toNat = letterCase.key d.toNat
    | _, _ => false

/-- **The first way on which an expression, and what is to be done behind it, succeeds.** -/
def run (text : Array Char) : Regex → Continuation → Continuation
  | empty, k, i, m => k i m
  | char s, k, i, m => if text[i]?.any s.has then k (i + 1) m else none
  | anchor a, k, i, m => if a.holds text i then k i m else none
  | seq r s, k, i, m => run text r (run text s k) i m
  | alt r s, k, i, m => orElse (run text r k i m) fun _ => run text s k i m
  | repeated least most preference r, k, i, m =>
    -- more steps than characters cannot all move on, so further ones change nothing
    let first := min least (text.size + 1)
    let left := most.map (· - least)
    let fuel := text.size + 2
    if preference = .onlyLongest then
      match firstTimes (run text r finished) first i m with
      | none => none
      | some (j, m) =>
        match firstMore (run text r finished) fuel left j m with
        | none => none
        | some (j, m) => k j m
    else
      times (run text r) first
        (more (run text r) (preference = .shortest) fuel left none k) i m
  | group none r, k, i, m => run text r k i m
  | group (some number) r, k, i, m =>
    run text r (fun j m => k j (m.stop number j)) i (m.start number i)
  | same letterCase number, k, i, m =>
    match m.span? number with
    | none => none
    | some (first, last) =>
      if sameText letterCase text first i (last - first) then k (i + (last - first)) m else none
  | ifMatched number yes no, k, i, m =>
    if (m.span? number).isSome then run text yes k i m else run text no k i m
  | atomic r, k, i, m =>
    match run text r finished i m with
    | none => none
    | some (j, m) => k j m
  | ahead negated r, k, i, m =>
    match run text r finished i m with
    | none => if negated then k i m else none
    | some (_, found) => if negated then none else k i found
  | behind negated length r, k, i, m =>
    match if length ≤ i then run text r finished (i - length) m else none with
    | none => if negated then k i m else none
    | some (_, found) => if negated then none else k i found

def search (r : Regex) (s : String) : Bool :=
  let text := s.toList.toArray
  (List.range (text.size + 1)).any fun i => (r.run text finished i {}).isSome

end Regex

def Pattern.search (p : Pattern) (s : String) : Bool := p.regex.search s

end FeatureLint
