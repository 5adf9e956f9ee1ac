import FeatureLint.Command.Arguments
import FeatureLint.Inspection
import FeatureLint.Settings.Project
import FeatureLint.Text.Ansi
import FeatureLint.Text.Newline
import FeatureLint.Tree.Edit

/-!
# Running the command

One run of the command on a workspace: it reads the arguments, then the settings, inspects the
corpus, prints the report, writes it to a file if it was asked to, and prints what comes of it.  An
`Outcome` has all that a run leaves: the exit code, what was printed and where, the fault that cut
the run short, if one did, and the workspace, in which nothing but the report is new.

What was printed before a fault stays printed.
-/

namespace FeatureLint.Command

inductive Channel where
  | output
  | errors
  deriving DecidableEq, Repr

abbrev Transcript := List (Channel × String)

structure Outcome where
  exitCode : Nat
  transcript : Transcript
  fault : Option Fault := none
  workspace : Workspace

/-- Texts as they are captured: one after the other, with line feeds for line ends. -/
def captured (texts : List String) : String :=
  String.ofList (Text.joinNewlines (texts.flatMap String.toList))

def Transcript.texts (t : Transcript) (c : Channel) : List String :=
  t.filterMap fun (d, text) => if d = c then some text else none

def Transcript.on (t : Transcript) (c : Channel) : String := captured (t.texts c)

def Transcript.all (t : Transcript) : String := captured (t.map (·.2))

def echo (line : String) : Channel × String := (.output, Text.withoutSequences line ++ "\n")

def debugLines (verbose : Bool) (events : List Event) : Transcript :=
  if verbose then events.map fun e => (.errors, e.debugLine ++ "\n") else []

def reportLines (r : Report) : List String :=
  (if r.summaries.isEmpty && r.isEmpty then ["No feature files to validate."] else [])
    ++ r.summaries.map (fun s => "- " ++ s.render) ++ r.findings.map Finding.render

/-- The last line of a run, which tells what comes of the report. -/
def verdict (failOnFindings : Bool) (r : Report) : String :=
  if r.failed failOnFindings then "Feature file validation failed."
  else if r.isEmpty then "Feature file validation passed."
  else
    "Feature file validation found " ++ toString r.findings.length ++ " violations, not failing."

def exitStatus (failOnFindings : Bool) (r : Report) : Nat := if r.failed failOnFindings then 1 else 0

def reportOctets (r : Report) : List UInt8 := Text.Utf8.encode (r.render ++ "\n").toList

def Outcome.cutShort (w : Workspace) (printed : Transcript) (fault : Fault) : Outcome :=
  { exitCode := 1, transcript := printed, fault := some fault, workspace := w }

def Outcome.finished (w : Workspace) (printed : Transcript) (s : Settings) (r : Report) :
    Outcome where
  exitCode := exitStatus s.failOnFindings.isTruthy r
  transcript := printed ++ [echo (verdict s.failOnFindings.isTruthy r)]
  workspace := w

/-- The rest of a run after the report was printed: it is written to a file, if one was named. -/
def deliver (w : Workspace) (req : Request) (s : Settings) (r : Report) (printed : Transcript) :
    Outcome :=
  match req.report with
  | none => .finished w printed s r
  | some file =>
    match w.writeDeep file (reportOctets r) with
    | (w, some fault) => .cutShort w printed fault
    | (w, none) => .finished w (printed ++ debugLines req.verbose [.wroteReport file]) s r

/-- The rest of a run after the settings were found. -/
def inspectWith (w : Workspace) (req : Request) (s : Settings) (printed : Transcript) : Outcome :=
  let found := Inspection.inspectAll w s req.root
  let printed := printed ++ debugLines req.verbose found.events
  match found.outcome with
  | .error fault => .cutShort w printed fault
  | .ok r => deliver w req s r (printed ++ (reportLines r).map echo)

/-- The settings of a request: those of the project, with what the request says in their place. -/
def Request.settings (req : Request) (w : Workspace) : Logged Settings :=
  (Project.settings w req.project).andThen fun s => .ofExcept (s.update req.options)

def inspect (w : Workspace) (req : Request) : Outcome :=
  let found := req.settings w
  let printed := debugLines req.verbose found.events
  match found.outcome with
  | .error (.noProject file searched) =>
    { exitCode := 1
      transcript := printed ++ [echo (Fault.noProject file searched).message]
      workspace := w }
  | .error fault => .cutShort w printed fault
  | .ok s => inspectWith w req s printed

/-- **A run of the command.** -/
def run (w : Workspace) (arguments : List String) : Outcome :=
  match Intent.ofArguments arguments with
  | .error (.usage e) =>
    { exitCode := 2
      transcript := [(.errors, Text.withoutSequences e.render)]
      workspace := w }
  | .error (.fault f) => .cutShort w [] f
  | .ok .help => { exitCode := 0, transcript := [(.output, helpText)], workspace := w }
  | .ok .version => { exitCode := 0, transcript := [(.output, versionText)], workspace := w }
  | .ok (.inspect req) => inspect w req

end FeatureLint.Command
