/-!
# Blanks

A line is read without the blanks at its two ends, a name that holds nothing but blanks is no name
at all, and a cell of blanks is an empty cell.  All three use one set of characters, `isBlank`: the
line breaks and separators of ASCII, the spaces of the other scripts, and nothing else.  A zero
width space or a byte order mark is no blank.
-/

namespace FeatureLint.Text

/-- The characters that count as blank. -/
def isBlank (c : Char) : Bool :=
  let n := c.toNat
  (0x09 ≤ n && n ≤ 0x0d) || (0x1c ≤ n && n ≤ 0x20) || n == 0x85 || n == 0xa0 || n == 0x1680
    || (0x2000 ≤ n && n ≤ 0x200a) || n == 0x2028 || n == 0x2029 || n == 0x202f || n == 0x205f
    || n == 0x3000

def trimLeft (cs : List Char) : List Char := cs.dropWhile isBlank

def trimRight (cs : List Char) : List Char := (cs.reverse.dropWhile isBlank).reverse

def trim (cs : List Char) : List Char := trimRight (trimLeft cs)

/-- A text without the blanks at its two ends. -/
def strip (s : String) : String := String.ofList (trim s.toList)

def isBlankText (s : String) : Bool := s.toList.all isBlank

/-- The stretches of a text between its blanks, in order, none of them empty. -/
def words (s : String) : List String :=
  ((s.toList.splitOnP isBlank).filter (!·.isEmpty)).map String.ofList

end FeatureLint.Text
