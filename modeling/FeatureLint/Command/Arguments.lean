import FeatureLint.Command.Usage
import FeatureLint.Settings.Basic
import FeatureLint.Text.Numeral

/-!
# The command line

What a list of arguments asks for.  It is read in two passes.  `scan` goes through the arguments and
tells options from the rest: an option's value is attached with an equals sign or is the next
argument, whatever that looks like, and two hyphens end the options.  `Words.request` then makes
a request of what was given, where the last of several values of an option counts.

Errors of the first pass come first.  Then help or the version is shown, if it was asked for,
whichever comes first.  Then the values are checked, in the order in which their options first came
up, then the root, and then the number of arguments.
-/

namespace FeatureLint.Command

inductive Opt where
  | ceiling
  | failOnFindings
  | ignoreCase
  | withinFile
  | skipCells
  | project
  | report
  | verbose
  | version
  | help
  deriving DecidableEq, Repr

inductive Meaning where
  | valued (o : Opt)
  | flag (o : Opt) (on : Bool)
  deriving DecidableEq, Repr

def meanings : List (String × Meaning) :=
  [("--max-scenarios", .valued .ceiling),
    ("--fail", .flag .failOnFindings true), ("--no-fail", .flag .failOnFindings false),
    ("--ignore-case", .flag .ignoreCase true), ("--match-case", .flag .ignoreCase false),
    ("--within-file", .flag .withinFile true), ("--cross-file-only", .flag .withinFile false),
    ("--no-empty-cells", .flag .skipCells true),
    ("--config", .valued .project), ("--report", .valued .report),
    ("--verbose", .flag .verbose true), ("--version", .flag .version true),
    ("--help", .flag .help true)]

inductive Given where
  | valued (o : Opt) (value : String)
  | flag (o : Opt) (on : Bool)
  deriving DecidableEq, Repr

structure Words where
  given : List Given := []
  others : List String := []
  deriving DecidableEq, Repr

/-- What one argument is, taken by itself. -/
inductive Word where
  | other
  | stop
  | complete (g : Given)
  /-- An option whose value is the next argument. -/
  | open (o : Opt) (name : String)
  | refused (e : UsageError)
  deriving DecidableEq, Repr

def split (argument : String) : String × Option String :=
  let cs := argument.toList
  match cs.dropWhile (· ≠ '=') with
  | _ :: value => (String.ofList (cs.takeWhile (· ≠ '=')), some (String.ofList value))
  | [] => (argument, none)

/-- The name by which an unknown option is refused: of one hyphen and several characters, only the
first character counts. -/
def refusedName (argument name : String) : String :=
  match argument.toList with
  | '-' :: '-' :: _ => name
  | '-' :: c :: _ => String.ofList ['-', c]
  | _ => name

def Word.ofString (argument : String) : Word :=
  match argument.toList with
  | ['-', '-'] => .stop
  | '-' :: _ :: _ =>
    let (name, value?) := split argument
    match meanings.lookup name, value? with
    | some (.valued o), some value => .complete (.valued o value)
    | some (.valued o), none => .open o name
    | some (.flag o on), none => .complete (.flag o on)
    | some (.flag ..), some _ => .refused (.unwantedValue name)
    | none, _ => .refused (.noSuchOption (refusedName argument name))
  | _ => .other

def Words.give (g : Given) (ws : Words) : Words := { ws with given := g :: ws.given }

/-- **The options and the other arguments of a command line.** -/
def scan : List String → Except UsageError Words
  | [] => .ok {}
  | argument :: rest =>
    match Word.ofString argument with
    | .other => (scan rest).map fun ws => { ws with others := argument :: ws.others }
    | .stop => .ok { others := rest }
    | .complete g => (scan rest).map (Words.give g)
    | .refused e => .error e
    | .open o name =>
      match rest with
      | [] => .error (.missingValue name)
      | value :: rest => (scan rest).map (Words.give (.valued o value))

/-- What a command line asks for. -/
structure Request where
  ceiling : Option Int := none
  failOnFindings : Option Bool := none
  ignoreCase : Option Bool := none
  withinFile : Option Bool := none
  skipCells : Bool := false
  project : Option Path := none
  report : Option Path := none
  verbose : Bool := false
  root : Path := .ofNames []
  deriving DecidableEq, Repr

inductive Refusal where
  | usage (e : UsageError)
  | fault (f : Fault)
  deriving DecidableEq, Repr

inductive Intent where
  | help
  | version
  | inspect (r : Request)
  deriving DecidableEq, Repr

namespace Given

def opt : Given → Opt
  | valued o _ => o
  | flag o _ => o

def intent? : Given → Option Intent
  | flag .help _ => some .help
  | flag .version _ => some .version
  | _ => none

def valueOf? (o : Opt) : Given → Option String
  | valued p value => if p = o then some value else none
  | flag .. => none

def flagOf? (o : Opt) : Given → Option Bool
  | flag p on => if p = o then some on else none
  | valued .. => none

/-- The value of an option among several: the last one. -/
def value? (given : List Given) (o : Opt) : Option String := given.reverse.findSome? (valueOf? o)

/-- Whether an option among several is on: the last one counts. -/
def flag? (given : List Given) (o : Opt) : Option Bool := given.reverse.findSome? (flagOf? o)

end Given

def pathRefusal? (s : String) : Option Refusal :=
  if s.toList.contains '\x00' then some (.fault .nul) else none

def ceilingRefusal? (s : String) : Option Refusal :=
  match Text.Numeral.integer s.toList with
  | .error _ => some (.usage (.notInteger "--max-scenarios" s))
  | .ok n => if n < 0 then some (.usage (.outOfRange "--max-scenarios" n)) else none

def refusal? (given : List Given) (o : Opt) : Option Refusal :=
  match o, Given.value? given o with
  | .ceiling, some value => ceilingRefusal? value
  | .project, some value => pathRefusal? value
  | .report, some value => pathRefusal? value
  | _, _ => none

/-- The root that the other arguments name; without any, the current directory. -/
def rootText (others : List String) : String := others.headD "."

/-- What is wrong with the values and the number of the other arguments, if anything is. -/
def Words.refusal? (ws : Words) : Option Refusal :=
  match (ws.given.map Given.opt).findSome? (Command.refusal? ws.given) with
  | some refusal => some refusal
  | none =>
    match pathRefusal? (rootText ws.others), ws.others.tail with
    | some refusal, _ => some refusal
    | none, [] => none
    | none, extra => some (.usage (.extraArguments extra))

/-- The request in a command line about which nothing is wrong. -/
def Words.request (ws : Words) : Request where
  ceiling := (Given.value? ws.given .ceiling).bind fun s => (Text.Numeral.integer s.toList).toOption
  failOnFindings := Given.flag? ws.given .failOnFindings
  ignoreCase := Given.flag? ws.given .ignoreCase
  withinFile := Given.flag? ws.given .withinFile
  skipCells := (Given.flag? ws.given .skipCells).getD false
  project := (Given.value? ws.given .project).map Path.ofString
  report := (Given.value? ws.given .report).map Path.ofString
  verbose := (Given.flag? ws.given .verbose).getD false
  root := .ofString (rootText ws.others)

/-- **What a command line asks for.** -/
def Intent.ofArguments (arguments : List String) : Except Refusal Intent :=
  match scan arguments with
  | .error e => .error (.usage e)
  | .ok ws =>
    match ws.given.findSome? Given.intent? with
    | some intent => .ok intent
    | none =>
      match ws.refusal? with
      | some refusal => .error refusal
      | none => .ok (.inspect ws.request)

def flagValue : Option Bool → Value
  | some b => .bool b
  | none => .scalar .null

def Request.options (r : Request) : Options :=
  [(Setting.ceiling.key, match r.ceiling with
      | some n => .int n
      | none => .scalar .null),
    (Setting.failOnFindings.key, flagValue r.failOnFindings),
    (Setting.caseSensitive.key, flagValue (r.ignoreCase.map not)),
    (Setting.withinFile.key, flagValue r.withinFile),
    (Setting.checkCells.key, flagValue (if r.skipCells then some false else none))]

end FeatureLint.Command
