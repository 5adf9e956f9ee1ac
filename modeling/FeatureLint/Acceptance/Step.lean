import FeatureLint.Text.Blank
import FeatureLint.Text.Numeral
import FeatureLint.Text.Search

/-!
# Steps of an acceptance scenario

An acceptance scenario puts the command through its paces in plain words: some steps prepare files,
some run the command, some check what came of it.  A step has a role, a name and perhaps a text of
several lines, and `Action.ofName?` tells from role and name what is to be done.  The words of a
name count exactly.  A blank to be filled in takes one character or more, quotes not excepted, as
long as the rest of the name fits.
-/

namespace FeatureLint.Acceptance

inductive Role where
  | preparation
  | run
  | check
  deriving DecidableEq, Repr

structure Step where
  role : Role
  name : String
  text : Option String := none
  deriving DecidableEq, Repr

inductive Action where
  | file (path : String)
  | scenarios (path : String) (count : Int)
  /-- Nothing, since the number of scenarios is no number that is read. -/
  | uncounted (flaw : Text.Numeral.Flaw)
  | unreadable (path : String)
  | projectFile
  | run (arguments : List String)
  | exitCode (value : String)
  | prints (message : String)
  | omits (message : String)
  | printsText
  | fileHasText (path : String)
  deriving DecidableEq, Repr

/-- What fills the blank between two texts. -/
def blank? (before after name : String) : Option String :=
  match (Text.after? before.toList name.toList).bind (Text.before? after.toList) with
  | some (c :: cs) => some (String.ofList (c :: cs))
  | _ => none

/-- Whether a character is a sign, or a space in the place of one. -/
def isSign (c : Char) : Bool := c = '-' || c = '+' || c = ' '

def areDigits (base : Nat) (cs : List Char) : Bool := (Text.Numeral.based? base cs).isSome

/-- Whether characters are a count in the base that they name: a sign at most, a zero, a letter and
digits. -/
def isPrefixedCount (cs : List Char) : Bool :=
  match if cs.head?.any isSign then cs.tail else cs with
  | '0' :: c :: digits => (Text.Numeral.baseOf? c).any (areDigits · digits)
  | _ => false

/-- Whether characters are a count in base ten: two signs at most, and digits. -/
def isPlainCount (cs : List Char) : Bool :=
  areDigits 10 (cs.drop ((cs.take 2).takeWhile isSign).length)

/-- The base of a count: the one that the letter behind a zero names.  Only a minus or a plus may
stand in front of the zero for that, so ` 0x10` is a count in base ten. -/
def countBase (cs : List Char) : Nat :=
  match (Text.Numeral.sign cs).2 with
  | '0' :: c :: _ :: _ => (Text.Numeral.baseOf? c).getD 10
  | _ => 10

/-- The count that characters spell, if they spell one.  It is negative if the first of them is a
minus, and otherwise made of all digits of its base among them. -/
def count? (cs : List Char) : Option (Except Text.Numeral.Flaw Int) :=
  if isPlainCount cs || isPrefixedCount cs then
    let base := countBase cs
    let digits := cs.filter fun c => (Text.Numeral.digit? base c).isSome
    some ((Text.Numeral.whole base digits).map
      (Text.Numeral.signed (cs.head? = some '-')))
  else none

/-- The path and the count in the name of a step that prepares scenarios.  A count has no quotes, so
the last quote ends the path. -/
def scenarios? (name : String) : Option (String × Except Text.Numeral.Flaw Int) :=
  match blank? "the feature file \"" " scenarios" name with
  | none => none
  | some filled =>
    let behind := (filled.toList.reverse.takeWhile (· ≠ '"')).reverse
    let path := (filled.toList.reverse.dropWhile (· ≠ '"')).tail.reverse
    match path, (Text.after? " with ".toList behind).bind count? with
    | _ :: _, some count => some (String.ofList path, count)
    | _, _ => none

def exactly (expected name : String) (action : Action) : Option Action :=
  if name = expected then some action else none

namespace Action

def preparation? (name : String) : Option Action :=
  (blank? "the feature file \"" "\"" name).map file
    <|> (scenarios? name).map (fun
      | (path, .ok count) => scenarios path count
      | (_, .error flaw) => uncounted flaw)
    <|> (blank? "the unreadable feature file \"" "\"" name).map unreadable
    <|> exactly "the project file" name projectFile

def run? (name : String) : Option Action :=
  (blank? "I run gherkin-guard with \"" "\"" name).map (fun args => run (Text.words args))
    <|> exactly "I run gherkin-guard with no arguments" name (run [])

def check? (name : String) : Option Action :=
  (blank? "the exit code is " "" name).map exitCode
    <|> (blank? "the output contains \"" "\"" name).map prints
    <|> (blank? "the output does not contain \"" "\"" name).map omits
    <|> exactly "the output contains the text" name printsText
    <|> (blank? "the file \"" "\" contains the text" name).map fileHasText

/-- **What a step of a certain role and name does**, if it does anything. -/
def ofName? : Role → String → Option Action
  | .preparation => preparation?
  | .run => run?
  | .check => check?

end Action

end FeatureLint.Acceptance
