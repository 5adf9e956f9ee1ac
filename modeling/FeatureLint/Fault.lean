import FeatureLint.Path
import FeatureLint.Text.Numeral
import FeatureLint.Text.Quoted
import FeatureLint.Text.Utf8

/-!
# Faults

Why an operation could not be carried out.  A `Fault` is a cause, with what is needed to tell it;
`Fault.message` is the only place that words it.  Faults of the file system and of the text of a
feature file end up in a report.  All others stop a run.
-/

namespace FeatureLint

inductive SystemCause where
  | missing
  | notDirectory
  | isDirectory
  | exists
  | nameTooLong
  | tooManyLinks
  deriving DecidableEq, Repr

def SystemCause.text : SystemCause → String
  | .missing => "[Errno 2] No such file or directory"
  | .notDirectory => "[Errno 20] Not a directory"
  | .isDirectory => "[Errno 21] Is a directory"
  | .exists => "[Errno 17] File exists"
  | .nameTooLong => "[Errno 36] File name too long"
  | .tooManyLinks => "[Errno 40] Too many levels of symbolic links"

inductive Container where
  | text
  | list
  deriving DecidableEq, Repr

inductive Fault where
  | system (cause : SystemCause) (path : Path)
  | nul
  | encoding (flaw : Text.Utf8.Flaw)
  | pattern
  | repetition
  | alphabets
  | tooManyDigits (count : Nat)
  | document
  /-- A pattern or a project file names a character by a number that is far too large. -/
  | characterNumber
  /-- A project file has a text over several lines without a name. -/
  | nameless
  | outOfRange (container : Container)
  /-- A project file names a member of a list or of a text, which have none by name. -/
  | namedMember (container : Container)
  /-- A project file takes a value for a list that is none. -/
  | notSubscriptable (type : String)
  /-- A project file takes a value for a table that has nothing in it to look for. -/
  | notSearchable (type : String)
  /-- A project file takes a value for a table that takes no members. -/
  | notAssignable (type : String)
  | noProject (file : Path) (searched : List Path)
  | unknownSetting (key : String)
  | reservedSetting (key : String)
  | notIterable (type : String)
  | notHashable (type : String)
  | notComparable (type : String)
  | noMember (type member : String)
  | unknownKind (label : String)
  deriving DecidableEq, Repr

def Text.Utf8.Reason.text : Utf8.Reason → String
  | .start => "invalid start byte"
  | .continuation => "invalid continuation byte"
  | .ended => "unexpected end of data"

/-- Where octets are wrong: a single one is named by its value, several by their range. -/
def Text.Utf8.Flaw.place (f : Utf8.Flaw) : String :=
  match f.octets with
  | [b] => "byte 0x" ++ String.ofList (hexDigits 2 b.toNat) ++ " in position " ++ toString f.offset
  | bs => "bytes in position " ++ toString f.offset ++ "-" ++ toString (f.offset + bs.length - 1)

def Text.Utf8.Flaw.message (f : Utf8.Flaw) : String :=
  "'utf-8' codec can't decode " ++ f.place ++ ": " ++ f.reason.text

namespace Fault

def settingsName : String := "AuditConfiguration.__init__()"

def message : Fault → String
  | system cause path => cause.text ++ ": " ++ Text.quoted path.text
  | nul => "embedded null byte"
  | encoding flaw => flaw.message
  | pattern => "the pattern is malformed"
  | repetition => "the repetition number is too large"
  | alphabets => "ASCII and UNICODE flags are incompatible"
  | tooManyDigits count =>
    "Exceeds the limit (" ++ toString Text.Numeral.maxDigits
      ++ " digits) for integer string conversion: value has " ++ toString count
      ++ " digits; use sys.set_int_max_str_digits() to increase the limit"
  | document => "the document is malformed"
  | characterNumber => "Python int too large to convert to C int"
  | nameless => "cannot access local variable 'value' where it is not associated with a value"
  | outOfRange .text => "string index out of range"
  | outOfRange .list => "list index out of range"
  | namedMember .text => "string indices must be integers, not 'str'"
  | namedMember .list => "list indices must be integers or slices, not str"
  | notSubscriptable type => "'" ++ type ++ "' object is not subscriptable"
  | notSearchable type => "argument of type '" ++ type ++ "' is not iterable"
  | notAssignable type => "'" ++ type ++ "' object does not support item assignment"
  | noProject file searched =>
    "\"" ++ file.text ++ "\" could not be located in the search paths: "
      ++ Text.quotedList (searched.map Path.text)
  | unknownSetting key => settingsName ++ " got an unexpected keyword argument '" ++ key ++ "'"
  | reservedSetting key => settingsName ++ " got multiple values for argument '" ++ key ++ "'"
  | notIterable type => "'" ++ type ++ "' object is not iterable"
  | notHashable type => "unhashable type: '" ++ type ++ "'"
  | notComparable type => "'>' not supported between instances of 'int' and '" ++ type ++ "'"
  | noMember type member => "'" ++ type ++ "' object has no attribute '" ++ member ++ "'"
  | unknownKind label => Text.quoted label ++ " is not a valid ViolationKind"

end Fault

end FeatureLint
