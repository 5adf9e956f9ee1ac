import FeatureLint.Text.Blank
import FeatureLint.Text.Letter
import FeatureLint.Text.Numeral
import FeatureLint.Text.Word

/-!
# Patterns for file names

A regular expression over characters: sets of characters, anchors, sequences, alternatives and
repetitions, groups and the texts that they matched, and a look ahead or behind.  What it means to
find one in a text is said in `Pattern.Match`.
-/

namespace FeatureLint

inductive LetterCase where
  | exact
  | ascii
  | any
  deriving DecidableEq, Repr

/-- Which characters a pattern counts as digits, blanks and parts of words. -/
inductive Alphabet where
  | full
  | ascii
  deriving DecidableEq, Repr

inductive CharClass where
  | one (n : Nat)
  | range (first last : Nat)
  | digit (a : Alphabet)
  | blank (a : Alphabet)
  | word (a : Alphabet)
  | except (c : CharClass)
  | all
  deriving DecidableEq, Repr

structure CharSet where
  negated : Bool := false
  letterCase : LetterCase := .exact
  classes : List CharClass
  deriving DecidableEq, Repr

/-- A place in a text, told by what surrounds it. -/
inductive Anchor where
  | textStart
  | textEnd
  | lineStart
  | lineEnd
  /-- The end of the text, or in front of a line feed that ends it. -/
  | lastLineEnd
  | wordEdge (a : Alphabet)
  | noWordEdge (a : Alphabet)
  deriving DecidableEq, Repr

/-- Which of several repetitions is preferred. -/
inductive Preference where
  | longest
  | shortest
  | onlyLongest
  deriving DecidableEq, Repr

inductive Regex where
  | empty
  | char (s : CharSet)
  | anchor (a : Anchor)
  | seq (r s : Regex)
  | alt (r s : Regex)
  | repeated (least : Nat) (most : Option Nat) (preference : Preference) (r : Regex)
  | group (number : Option Nat) (r : Regex)
  /-- The text that the group with a number matched last. -/
  | same (letterCase : LetterCase) (number : Nat)
  | ifMatched (number : Nat) (yes no : Regex)
  /-- The preferred match of an expression, and no other. -/
  | atomic (r : Regex)
  /-- The empty text where an expression matches, or does not, from here on. -/
  | ahead (negated : Bool) (r : Regex)
  /-- The empty text where an expression of a certain length matches, or does not, up to here. -/
  | behind (negated : Bool) (length : Nat) (r : Regex)
  deriving DecidableEq, Repr

namespace Alphabet

def isDigit (c : Char) : Alphabet → Bool
  | full => (Text.digitValue? c).isSome
  | ascii => c.isDigit

def isBlank (c : Char) : Alphabet → Bool
  | full => Text.isBlank c
  | ascii => c = ' ' || (0x09 ≤ c.toNat && c.toNat ≤ 0x0d)

def isWord (c : Char) : Alphabet → Bool
  | full => Text.isWord c
  | ascii => c.isAlphanum || c = '_'

end Alphabet

namespace LetterCase

/-- The code points that are one with a given one. -/
def shapes (n : Nat) : LetterCase → List Nat
  | exact => [n]
  | ascii => Text.shapesAscii n
  | any => Text.shapes n

/-- What code points are compared by that are to be one. -/
def key (n : Nat) : LetterCase → Nat
  | exact => n
  | ascii => Text.lowerAscii n
  | any => Text.lower n

end LetterCase

namespace CharClass

/-- The last code point of the first plane, beyond which letter case is taken less widely. -/
def planeEnd : Nat := 0xffff

/-- Whether a class has a character, given the code points that are one with it.  A code point
beyond the first plane that is not alone in its set has to be a small letter to be matched in either
case. -/
def has (letterCase : LetterCase) (alone : Bool) (c : Char) (shapes : List Nat) :
    CharClass → Bool
  | one n =>
    if planeEnd < n && !alone then letterCase.key c.toNat = n else shapes.contains n
  | range first last => shapes.any fun n => first ≤ n && n ≤ last
  | digit a => a.isDigit c
  | blank a => a.isBlank c
  | word a => a.isWord c
  | except cls => !cls.has letterCase alone c shapes
  | all => true

end CharClass

def CharSet.has (s : CharSet) (c : Char) : Bool :=
  let shapes := s.letterCase.shapes c.toNat
  let alone := s.classes.length = 1
  s.classes.any (CharClass.has s.letterCase alone c shapes) != s.negated

namespace Anchor

/-- Whether exactly one of the neighbours of a position belongs to a word. -/
def isEdge (a : Alphabet) (text : Array Char) (i : Nat) : Bool :=
  (0 < i && text[i - 1]?.any (a.isWord ·)) != text[i]?.any (a.isWord ·)

def holds (text : Array Char) (i : Nat) : Anchor → Bool
  | textStart => i == 0
  | textEnd => i == text.size
  | lineStart => i == 0 || text[i - 1]? == some '\n'
  | lineEnd => i == text.size || text[i]? == some '\n'
  | lastLineEnd => i == text.size || (i + 1 == text.size && text[i]? == some '\n')
  | wordEdge a => text.size ≠ 0 && isEdge a text i
  | noWordEdge a => text.size ≠ 0 && !isEdge a text i

end Anchor

structure Pattern where
  source : String
  regex : Regex
  deriving DecidableEq, Repr

end FeatureLint
