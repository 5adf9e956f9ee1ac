import FeatureLint.Text.Search

/-!
# Findings and reports

A `Finding` is one thing that is wrong with a corpus, a `Report` all of them, after a summary of
each file that could be read.  The message of a finding is one sentence that names the files.  A
field that a finding does not have is shown as `None`.
-/

namespace FeatureLint

inductive Finding.Kind where
  | unreadable
  | tooManyScenarios
  | duplicateFeature
  | duplicateScenario
  | emptyCell
  deriving DecidableEq, Repr

structure Finding where
  kind : Finding.Kind
  files : List String
  key : Option String := none
  line : Option Int := none
  column : Option Int := none
  detail : Option String := none
  deriving DecidableEq, Repr

namespace Finding

/-- All kinds, in the order of a report. -/
def Kind.all : List Kind :=
  [.unreadable, .tooManyScenarios, .duplicateFeature, .duplicateScenario, .emptyCell]

def Kind.label : Kind → String
  | .unreadable => "FileReadError"
  | .tooManyScenarios => "ScenarioLimitExceeded"
  | .duplicateFeature => "DuplicateFeature"
  | .duplicateScenario => "DuplicateScenario"
  | .emptyCell => "EmptyTableCell"

def Kind.ofLabel? (s : String) : Option Kind := Kind.all.find? fun k => k.label = s

/-- How a field is shown that a finding may lack. -/
def shown {α : Type} [ToString α] : Option α → String
  | some a => toString a
  | none => "None"

def message (f : Finding) : String :=
  let files := Text.join ", " f.files
  match f.kind with
  | .unreadable => "Could not read feature file " ++ files ++ ": " ++ shown f.detail
  | .tooManyScenarios => "Scenario count exceeded in file: " ++ files ++ " (" ++ shown f.detail ++ ")"
  | .duplicateFeature => "Duplicate feature description '" ++ shown f.key ++ "' in: " ++ files
  | .duplicateScenario => "Duplicate scenario name '" ++ shown f.key ++ "' in: " ++ files
  | .emptyCell =>
    "Empty table cell at " ++ files ++ ":" ++ shown f.line ++ " (column " ++ shown f.column ++ ")"

def render (f : Finding) : String := f.kind.label ++ ": " ++ f.message

end Finding

structure Summary where
  path : String
  count : Int
  deriving DecidableEq, Repr

def Summary.render (s : Summary) : String :=
  s.path ++ " (Total Scenarios: " ++ toString s.count ++ ")"

structure Report where
  findings : List Finding
  summaries : List Summary
  deriving DecidableEq, Repr

namespace Report

/-- A report without findings. -/
def isEmpty (r : Report) : Bool := r.findings.isEmpty

def countOf (r : Report) (k : Finding.Kind) : Nat := r.findings.countP fun f => f.kind = k

/-- Whether the build should stop: there are findings, and they are to stop it. -/
def failed (r : Report) (failOnFindings : Bool) : Bool := failOnFindings && !r.isEmpty

def lines (r : Report) : List String :=
  r.summaries.map Summary.render ++ r.findings.map Finding.render

def render (r : Report) : String := Text.join "\n" r.lines

end Report

end FeatureLint
