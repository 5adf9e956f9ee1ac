import FeatureLint.Fault
import FeatureLint.Pattern.Parser
import FeatureLint.Settings.Options

/-!
# Settings

The settings of a run: how many scenarios a file may have, which findings are looked for, whether
findings stop the build, and which files are looked at.  All of them have defaults, and
`Settings.update` puts options in their place.

A value of the wrong type is taken as it is, and matters when it is used.  Two settings are made
ready at once: the pattern for file names, which may be malformed, and the names of directories
that are passed over, which have to be the members of something.  An update fails for these first,
and then for the first key that names no setting.
-/

namespace FeatureLint

inductive Setting where
  | ceiling
  | failOnFindings
  | caseSensitive
  | withinFile
  | checkCells
  | nameFilter
  | passedOver
  deriving DecidableEq, Repr

namespace Setting

def all : List Setting :=
  [ceiling, failOnFindings, caseSensitive, withinFile, checkCells, nameFilter, passedOver]

def key : Setting → String
  | ceiling => "max_scenarios"
  | failOnFindings => "fail_on_violations"
  | caseSensitive => "case_sensitive"
  | withinFile => "within_file_duplicates"
  | checkCells => "check_empty_cells"
  | nameFilter => "include"
  | passedOver => "exclude"

def ofKey? (k : String) : Option Setting := all.find? fun s => s.key = k

def reserved : String := "self"

def keyFault? (k : String) : Option Fault :=
  if k = reserved then some (.reservedSetting k)
  else if (ofKey? k).isNone then some (.unknownSetting k)
  else none

end Setting

inductive NameFilter where
  | pattern (p : Pattern)
  /-- Not said: some other value stands in its place. -/
  | value (v : Value)

structure Settings where
  ceiling : Value
  failOnFindings : Value
  caseSensitive : Value
  /-- Whether a name that comes twice in one file is a finding. -/
  withinFile : Value
  checkCells : Value
  nameFilter : NameFilter
  /-- The names of the directories that are passed over, each once. -/
  passedOver : List Scalar

/-- The pattern for the names that end in `.feature`, in front of a line feed at most. -/
def Pattern.dotFeature : Pattern where
  source := "\\.feature$"
  regex :=
    ".feature".toList.foldr
      (fun c r => .seq (.char { classes := [.one c.toNat] }) r) (.anchor .lastLineEnd)

namespace Settings

def foreignDirectories : List String :=
  [".git", ".hg", ".svn", ".tox", ".venv", "__pycache__", "build", "dist", "node_modules",
    "target", "venv"]

def default : Settings where
  ceiling := .int 100
  failOnFindings := .bool true
  caseSensitive := .bool true
  withinFile := .bool true
  checkCells := .bool true
  nameFilter := .pattern .dotFeature
  passedOver := foreignDirectories.map .text

/-- What a value says about the names of feature files: a text is a pattern. -/
def readNameFilter : Value → Except Fault NameFilter
  | .text s => (Pattern.ofString s).map .pattern
  | v => .ok (.value v)

def readMember : Value → Except Fault Scalar
  | .scalar s => .ok s
  | v => .error (.notHashable v.typeName)

def distinct (scalars : List Scalar) : List Scalar :=
  (scalars.foldl (fun found s => if found.any (·.same s) then found else s :: found) []).reverse

/-- What a value says about the directories that are passed over: its members.  Those of a text are
its characters, and those of a table its keys. -/
def readPassedOver : Value → Except Fault (List Scalar)
  | .text s => .ok (distinct (s.toList.map fun c => .text (String.singleton c)))
  | .list items => (items.mapM readMember).map distinct
  | .table _ fields => .ok (distinct (fields.map fun (key, _) => .text key))
  | v => .error (.notIterable v.typeName)

/-- What options say about a setting: what `read` makes of the value, if there is one. -/
def pick {α : Type} (options : Options) (setting : Setting) (read : Value → Except Fault α)
    (old : α) : Except Fault α :=
  match options.get? setting.key with
  | some v => read v
  | none => .ok old

def value (options : Options) (setting : Setting) (old : Value) : Value :=
  (options.get? setting.key).getD old

/-- **The settings after options were put in their place.** -/
def update (s : Settings) (options : Options) : Except Fault Settings :=
  let given := options.given
  match pick given .nameFilter readNameFilter s.nameFilter with
  | .error fault => .error fault
  | .ok nameFilter =>
    match pick given .passedOver readPassedOver s.passedOver with
    | .error fault => .error fault
    | .ok passedOver =>
      match given.findSome? fun (key, _) => Setting.keyFault? key with
      | some fault => .error fault
      | none =>
        .ok {
          ceiling := value given .ceiling s.ceiling
          failOnFindings := value given .failOnFindings s.failOnFindings
          caseSensitive := value given .caseSensitive s.caseSensitive
          withinFile := value given .withinFile s.withinFile
          checkCells := value given .checkCells s.checkCells
          nameFilter, passedOver }

end Settings

end FeatureLint
