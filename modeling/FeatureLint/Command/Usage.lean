import FeatureLint.Fault
import FeatureLint.Text.Search

/-!
# The usage of the command

What the command says about itself, and about a command line that it does not understand.  An error
of usage is told after two lines on how to use the command, unless it is about an option that has a
value where it takes none, or none where it takes one.
-/

namespace FeatureLint.Command

def name : String := "main"

def version : String := "0.1.0"

def usageLine : String := "Usage: " ++ name ++ " [OPTIONS] [ROOT]\n"

def helpText : String :=
  usageLine ++ "\n"
    ++ "Options:\n"
    ++ "  --max-scenarios INTEGER RANGE   Maximum scenarios per file  [x>=0]\n"
    ++ "  --fail / --no-fail              Exit 1 on violations\n"
    ++ "  --ignore-case / --match-case    Case-insensitive names\n"
    ++ "  --within-file / --cross-file-only\n"
    ++ "                                  Report names repeated inside one file\n"
    ++ "  --no-empty-cells                Skip the empty cell check\n"
    ++ "  --config PATH                   pyproject.toml\n"
    ++ "  --report PATH                   Write the report\n"
    ++ "  --verbose\n"
    ++ "  --version                       Show the version and exit.\n"
    ++ "  --help                          Show this message and exit.\n"

def versionText : String := name ++ ", version " ++ version ++ "\n"

inductive UsageError where
  | noSuchOption (option : String)
  | missingValue (option : String)
  | unwantedValue (option : String)
  | notInteger (option value : String)
  | outOfRange (option : String) (value : Int)
  | extraArguments (arguments : List String)
  deriving DecidableEq, Repr

namespace UsageError

def message : UsageError → String
  | noSuchOption option => "No such option " ++ Text.quoted option ++ "."
  | missingValue option => "Option " ++ Text.quoted option ++ " requires an argument."
  | unwantedValue option => "Option " ++ Text.quoted option ++ " does not take a value."
  | notInteger option value =>
    "Invalid value for '" ++ option ++ "': " ++ Text.quoted value
      ++ " is not a valid integer range."
  | outOfRange option value =>
    "Invalid value for '" ++ option ++ "': " ++ toString value ++ " is not in the range x>=0."
  | extraArguments [argument] => "Got unexpected extra argument (" ++ argument ++ ")"
  | extraArguments arguments =>
    "Got unexpected extra arguments (" ++ Text.join " " arguments ++ ")"

def showsUsage : UsageError → Bool
  | missingValue _ | unwantedValue _ => false
  | _ => true

def render (e : UsageError) : String :=
  (if e.showsUsage then usageLine ++ "Try '" ++ name ++ " --help' for help.\n\n" else "")
    ++ "Error: " ++ e.message ++ "\n"

end UsageError

end FeatureLint.Command
