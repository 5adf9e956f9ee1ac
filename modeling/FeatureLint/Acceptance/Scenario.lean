import FeatureLint.Acceptance.Step
import FeatureLint.Command.Run
import FeatureLint.Text.Newline

/-!
# Acceptance scenarios

Running the steps of a scenario.  Files are only noted at first.  The first run of the command
makes the project directory and writes them, and no run after it writes them again, even if the
first one could not finish.  Each run starts in the project directory, and what it printed and its
exit code are what later checks see.

A step that does not pass does not stop the scenario.
-/

namespace FeatureLint.Acceptance

/-- Why a step could not be carried out. -/
inductive Trouble where
  | noRun
  | noText (use : String)
  | notInteger (text : String)
  | uncounted (count : Nat)
  | fault (f : Fault)
  deriving DecidableEq, Repr

/-- The number of characters that are shown of a text that is no whole number, quotes included. -/
def maxShown : Nat := 200

def Trouble.message : Trouble → String
  | noRun => "'Context' object has no attribute 'result'"
  | noText use => "'NoneType' object has no attribute '" ++ use ++ "'"
  | notInteger text =>
    "invalid literal for int() with base 10: "
      ++ String.ofList ((Text.quoted text).toList.take maxShown)
  | uncounted count => (Fault.tooManyDigits count).message
  | fault f => f.message

inductive Verdict where
  | undefined
  | passed
  | ran (o : Command.Outcome)
  | failed (message : String)
  | broken (t : Trouble)

/-- A scenario in the course of being run. -/
structure Scenario where
  project : Place
  verbose : Bool
  /-- The files that were noted, in order, each once. -/
  files : List (String × List UInt8) := []
  tree : Tree
  last : Option Command.Outcome := none

namespace Scenario

/-- The scenario before its first step: there is a directory for the project to be made in. -/
def start (base : Place) (verbose : Bool) : Scenario where
  project := base ++ ["project"]
  verbose
  tree := ⟨(List.range base.length).map fun n => (base.take (n + 1), .dir)⟩

def workspace (s : Scenario) : Workspace := ⟨s.tree, s.project⟩

def directory (s : Scenario) : Path := ⟨.root, s.project⟩

def path (s : Scenario) (relative : String) : Path := s.directory / Path.ofString relative

/-- Files with other contents for a path; a new path comes last. -/
def noteIn (path : String) (octets : List UInt8) :
    List (String × List UInt8) → List (String × List UInt8)
  | [] => [(path, octets)]
  | (p, old) :: files =>
    if p = path then (p, octets) :: files else (p, old) :: noteIn path octets files

def note (s : Scenario) (path : String) (octets : List UInt8) : Scenario :=
  { s with files := noteIn path octets s.files }

def featureText (path : String) (count : Int) : String :=
  "Feature: " ++ path ++ "\n"
    ++ String.join ((List.range count.toNat).map fun i =>
      "  Scenario: " ++ path ++ " case " ++ toString i ++ "\n")

def unreadableOctets : List UInt8 :=
  Text.Utf8.encode "Feature: ".toList ++ [0xff, 0xfe] ++ Text.Utf8.encode ['\n']

/-- Files written one after the other, up to the first that cannot be. -/
def writeAll (w : Workspace) : List (Path × List UInt8) → Workspace × Option Fault
  | [] => (w, none)
  | (p, octets) :: files =>
    match w.writeDeep p octets with
    | (w, some fault) => (w, some fault)
    | (w, none) => writeAll w files

def isSetUp (s : Scenario) : Bool := s.tree.get? s.project ≠ none

/-- The files after the project directory was made, and in it what was noted. -/
def setUp (s : Scenario) : Workspace × Option Fault :=
  match s.workspace.makeDirs s.directory with
  | (w, some fault) => (w, some fault)
  | (w, none) => writeAll w (s.files.map fun (p, octets) => (s.path p, octets))

def runIn (s : Scenario) (w : Workspace) (arguments : List String) : Scenario × Verdict :=
  let arguments := if s.verbose then arguments ++ ["--verbose"] else arguments
  let o := Command.run w arguments
  ({ s with tree := o.workspace.tree, last := some o }, .ran o)

def run (s : Scenario) (arguments : List String) : Scenario × Verdict :=
  if s.isSetUp then s.runIn s.workspace arguments
  else
    match s.setUp with
    | (w, some fault) => ({ s with tree := w.tree }, .broken (.fault fault))
    | (w, none) => s.runIn w arguments

def integer (text : String) : Except Trouble Int :=
  match Text.Numeral.integer text.toList with
  | .ok n => .ok n
  | .error .malformed => .error (.notInteger text)
  | .error (.tooLong count) => .error (.fault (.tooManyDigits count))

def readText (s : Scenario) (relative : String) : Except Fault String :=
  match s.workspace.read (s.path relative) with
  | .error fault => .error fault
  | .ok octets =>
    match Text.Utf8.decode octets with
    | .error flaw => .error (.encoding flaw)
    | .ok cs => .ok (String.ofList (Text.unifyNewlines cs))

def verdict (holds : Bool) (message : String) : Verdict := if holds then .passed else .failed message

/-- The verdict of a check on the last run, if there was one. -/
def onLast (s : Scenario) (check : Command.Outcome → Verdict) : Verdict :=
  match s.last with
  | none => .broken .noRun
  | some o => check o

def withText {α : Type} (text : Option String) (use : String) (broken : Trouble → α)
    (f : String → α) : α :=
  match text with
  | none => broken (.noText use)
  | some t => f t

def exitCodeIs (value : String) (o : Command.Outcome) : Verdict :=
  match integer value with
  | .error trouble => .broken trouble
  | .ok n => verdict (n = o.exitCode) o.transcript.all

def prints (message : String) (o : Command.Outcome) : Verdict :=
  verdict (Text.contains o.transcript.all message) o.transcript.all

def omits (message : String) (o : Command.Outcome) : Verdict :=
  verdict (!Text.contains o.transcript.all message) o.transcript.all

def fileHas (s : Scenario) (relative text : String) : Verdict :=
  match s.readText relative with
  | .error fault => .broken (.fault fault)
  | .ok contents => verdict (Text.contains contents (Text.strip text)) ""

def noteText (s : Scenario) (path : String) (text : Option String) : Scenario × Verdict :=
  withText text "encode" (fun trouble => (s, .broken trouble)) fun t =>
    (s.note path (Text.Utf8.encode t.toList), .passed)

def perform (s : Scenario) (text : Option String) : Action → Scenario × Verdict
  | .file path => s.noteText path text
  | .scenarios path count =>
    (s.note path (Text.Utf8.encode (featureText path count).toList), .passed)
  | .uncounted (.tooLong count) => (s, .broken (.uncounted count))
  | .uncounted .malformed => (s, .undefined)
  | .unreadable path => (s.note path unreadableOctets, .passed)
  | .projectFile => s.noteText Project.fileName.text text
  | .run arguments => s.run arguments
  | .exitCode value => (s, s.onLast (exitCodeIs value))
  | .prints message => (s, s.onLast (prints message))
  | .omits message => (s, s.onLast (omits message))
  | .printsText =>
    (s, s.onLast fun o => withText text "strip" .broken fun t => prints (Text.strip t) o)
  | .fileHasText path => (s, withText text "strip" .broken (s.fileHas path))

/-- **The scenario after a step, and what became of the step.** -/
def step (s : Scenario) (st : Step) : Scenario × Verdict :=
  match Action.ofName? st.role st.name with
  | none => (s, .undefined)
  | some action => s.perform st.text action

def steps (s : Scenario) : List Step → Scenario × List Verdict
  | [] => (s, [])
  | st :: rest =>
    let (s, v) := s.step st
    let (s, vs) := s.steps rest
    (s, v :: vs)

def noted (s : Scenario) : List String := (s.files.map (·.1)).mergeSort (· ≤ ·)

def onDisk (s : Scenario) : List String :=
  ((s.tree.filesBelow s.project).map fun (p, _) => p.text).mergeSort (· ≤ ·)

end Scenario

/-- The tag that makes every run of a scenario show its events. -/
def verboseTag : String := "verbose"

/-- A scenario with its tags, run to its end. -/
def runScenario (base : Place) (tags : List String) (steps : List Step) :
    Scenario × List Verdict :=
  (Scenario.start base (tags.contains verboseTag)).steps steps

end FeatureLint.Acceptance
