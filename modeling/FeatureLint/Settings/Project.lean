import FeatureLint.Document.Parser
import FeatureLint.Event
import FeatureLint.Settings.Basic
import FeatureLint.Text.Newline
import FeatureLint.Tree.Resolve

/-!
# Project files

The settings of a project stand in a file at its top, in a table of their own.  `Project.find?`
looks for the file in the current directory and then in each one above it, so the nearest one
counts; something of that name that is no file is passed over.  `Project.settings` reads the file,
or one that is named outright, and puts what its table says in place of the defaults.
-/

namespace FeatureLint.Project

def fileName : Path := .ofNames ["pyproject.toml"]

def toolKey : String := "tool"

def sectionKey : String := "gherkin-guard"

/-- The current directory, and each one above it. -/
def searched (w : Workspace) : List Path :=
  (List.range (w.cwd.length + 1)).map fun n => ⟨.root, w.cwd.take (w.cwd.length - n)⟩

def firstIn (w : Workspace) : List Path → Except Fault (Option Path)
  | [] => .ok none
  | dir :: dirs =>
    match w.isFile? (dir / fileName) with
    | .error fault => .error fault
    | .ok true => .ok (some (dir / fileName))
    | .ok false => firstIn w dirs

def find? (w : Workspace) : Except Fault (Option Path) := firstIn w (searched w)

/-- The nearest project file; that there is none is a fault. -/
def find (w : Workspace) : Except Fault Path :=
  match find? w with
  | .error fault => .error fault
  | .ok (some file) => .ok file
  | .ok none => .error (.noProject fileName (searched w))

def fieldsOf (octets : List UInt8) : Except Fault (List (String × Value)) :=
  match Text.Utf8.decode octets with
  | .error flaw => .error (.encoding flaw)
  | .ok cs => Document.ofChars (Text.unifyNewlines cs)

/-- What a document says about the settings: nothing, if it lacks the table. -/
def optionsOf (fields : List (String × Value)) : Except Fault Options :=
  match (Value.field? toolKey fields).getD (.table .plain []) with
  | .table _ tools =>
    match (Value.field? sectionKey tools).getD (.table .plain []) with
    | .table _ options => .ok options
    | v => .error (.noMember v.typeName "items")
  | v => .error (.noMember v.typeName "get")

def settingsIn (w : Workspace) (file : Path) : Except Fault Settings := do
  let octets ← w.read file
  let fields ← fieldsOf octets
  let options ← optionsOf fields
  Settings.default.update options

/-- The file to read the settings from: the one that is named, or else the nearest project file, if
there is one. -/
def choose (w : Workspace) : Option Path → Except Fault (Option Path)
  | none => find? w
  | some file =>
    match w.isFile? file with
    | .error fault => .error fault
    | .ok true => .ok (some file)
    | .ok false => .error (.noProject file [file.parent])

/-- **The settings of a project.** -/
def settings (w : Workspace) (named : Option Path) : Logged Settings :=
  match choose w named with
  | .error fault => .fail fault
  | .ok none => ⟨[.noProject fileName], .ok .default⟩
  | .ok (some file) => ⟨[.readingProject file], settingsIn w file⟩

end FeatureLint.Project
