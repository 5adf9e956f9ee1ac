/-!
# Parts of a text

What stands after a given beginning, whether one text occurs in another, and the replacement of
every occurrence of one character.  The functions work on lists of characters; the ones that take
a `String` go through `String.toList` once.
-/

namespace FeatureLint.Text

/-- What follows `start`, if the characters begin with it. -/
def after? : List Char → List Char → Option (List Char)
  | [], cs => some cs
  | _ :: _, [] => none
  | s :: start, c :: cs => if s = c then after? start cs else none

/-- What precedes `stop`, if the characters end with it. -/
def before? (stop cs : List Char) : Option (List Char) :=
  (after? stop.reverse cs.reverse).map List.reverse

def occursIn (part : List Char) : List Char → Bool
  | [] => part.isEmpty
  | c :: cs => part.isPrefixOf (c :: cs) || occursIn part cs

def contains (s part : String) : Bool := occursIn part.toList s.toList

def replaceChar (old new : Char) (s : String) : String :=
  String.ofList (s.toList.map fun c => if c = old then new else c)

def join (between : String) (parts : List String) : String := between.intercalate parts

end FeatureLint.Text
