import FeatureLint.Fault

/-!
# Events

A run tells what it does as it goes along.  An `Event` is one such remark: that a table of examples
ended, that a file could not be read, which project file is used.  Events are no part of a report.
They are kept in the order in which they came about, also when a run stops with a fault, and a
`Logged` value is an outcome together with the events on the way to it.
-/

namespace FeatureLint

inductive Event.Source where
  | parser
  | engine
  | discovery
  | config
  | command
  deriving DecidableEq, Repr

inductive Event where
  | tableEnd (file : Path) (line : Nat)
  | skipped (file : Path) (reason : String)
  | counted (file : String) (count : Nat)
  | rootMissing (root : Path)
  | found (count : Nat) (root : Path)
  | readingProject (file : Path)
  | noProject (file : Path)
  | wroteReport (file : Path)
  deriving DecidableEq, Repr

namespace Event

def source : Event → Source
  | tableEnd .. => .parser
  | skipped .. | counted .. => .engine
  | rootMissing _ | found .. => .discovery
  | readingProject _ | noProject _ => .config
  | wroteReport _ => .command

def Source.label : Source → String
  | parser => "parser"
  | engine => "engine"
  | discovery => "discovery"
  | config => "config"
  | command => "gherkin_guard"

def Source.fullLabel : Source → String
  | command => Source.command.label
  | s => Source.command.label ++ ".audit." ++ s.label

def text : Event → String
  | tableEnd file line => file.text ++ ":" ++ toString line ++ ": end of examples table"
  | skipped file reason => "Skipping unreadable file " ++ file.text ++ ": " ++ reason
  | counted file count => file ++ " has " ++ toString count ++ " scenarios"
  | rootMissing root => root.text ++ " does not exist, no feature files to validate"
  | found count root => "Found " ++ toString count ++ " feature files under " ++ root.text
  | readingProject file => "Reading configuration from " ++ file.text
  | noProject file => "No " ++ file.text ++ " found, using defaults"
  | wroteReport file => "Wrote report to " ++ file.text

def render (e : Event) : String := e.source.label ++ ": " ++ e.text

def debugLine (e : Event) : String := "DEBUG:" ++ e.source.fullLabel ++ ":" ++ e.text

end Event

/-- An outcome, or the fault that came in its way, and the events before it. -/
structure Logged (α : Type) where
  events : List Event
  outcome : Except Fault α

namespace Logged

def ok {α : Type} (a : α) : Logged α := ⟨[], .ok a⟩

def fail {α : Type} (fault : Fault) : Logged α := ⟨[], .error fault⟩

def ofExcept {α : Type} (outcome : Except Fault α) : Logged α := ⟨[], outcome⟩

/-- One thing after the other.  A fault in the first leaves out the second. -/
def andThen {α β : Type} (x : Logged α) (f : α → Logged β) : Logged β :=
  match x.outcome with
  | .error fault => ⟨x.events, .error fault⟩
  | .ok a => ⟨x.events ++ (f a).events, (f a).outcome⟩

def each {α β : Type} (f : α → Logged β) : List α → Logged (List β)
  | [] => ok []
  | a :: as => (f a).andThen fun b => (each f as).andThen fun bs => ok (b :: bs)

end Logged

end FeatureLint
