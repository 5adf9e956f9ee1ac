import FeatureLint.Text.Search

/-!
# Paths

A path is a list of names, read from its text by cutting at the slashes: empty names and the name
`.` say nothing and are dropped, `..` is kept.  `a//b/./c/` is thus the path `a/b/c`, and the empty
text is the path without names, which is written `.`.  A path that starts with a slash is absolute;
one that starts with exactly two keeps both.

Paths are ordered by their lists of parts, each part by code points, so everything below a
directory stands together: `a/z` comes before `a-b`, and `a-b` before `a.feature`.
-/

namespace FeatureLint

inductive Path.Anchor where
  | current
  | root
  /-- At the root of the file system, written with two slashes. -/
  | doubleRoot
  deriving DecidableEq, Repr

structure Path where
  anchor : Path.Anchor
  /-- The names, none of them empty or `.`. -/
  names : List String
  deriving DecidableEq, Repr

namespace Path

def Anchor.text : Anchor → String
  | .current => ""
  | .root => "/"
  | .doubleRoot => "//"

/-- The anchor of a path's text: by the number of slashes at its front. -/
def Anchor.ofChars (cs : List Char) : Anchor :=
  match (cs.takeWhile (· = '/')).length with
  | 0 => .current
  | 2 => .doubleRoot
  | _ => .root

def namesOf (cs : List Char) : List String :=
  ((cs.splitOn '/').map String.ofList).filter fun name => name ≠ "" && name ≠ "."

def ofString (s : String) : Path := ⟨Anchor.ofChars s.toList, namesOf s.toList⟩

def ofNames (names : List String) : Path := ⟨.current, names⟩

def text (p : Path) : String :=
  if p.anchor = .current ∧ p.names = [] then "."
  else p.anchor.text ++ Text.join "/" p.names

/-- The last name of a path; a path without names has the empty one. -/
def name (p : Path) : String := p.names.getLastD ""

def parent (p : Path) : Path := { p with names := p.names.dropLast }

/-- The path `q` as seen from `p`: an absolute path stays what it is. -/
def append (p q : Path) : Path :=
  match q.anchor with
  | .current => { p with names := p.names ++ q.names }
  | _ => q

instance : HDiv Path Path Path := ⟨append⟩

/-- The names that lead from `root` to `p`, if `root` is a beginning of `p`. -/
def namesFrom? (root p : Path) : Option (List String) :=
  if p.anchor = root.anchor ∧ root.names.isPrefixOf p.names then
    some (p.names.drop root.names.length)
  else none

/-- The parts by which paths are ordered: the anchor, if the path is absolute, then the names. -/
def parts (p : Path) : List String :=
  match p.anchor with
  | .current => p.names
  | _ => p.anchor.text :: p.names

def le (p q : Path) : Bool := !q.parts.lex p.parts

def sort (paths : List Path) : List Path := paths.mergeSort le

/-- Whether a path holds the character that no file system takes. -/
def holdsNul (p : Path) : Bool := p.names.any fun name => name.toList.contains '\x00'

end Path

end FeatureLint
