import FeatureLint.Path

/-!
# File trees

A file tree as a value: what stands at each place below the root of the file system.  A place is
the list of names that lead to it, and holds a file, a directory or a symbolic link.  The root is a
directory that needs no entry.

The operations here take places, not paths: they follow no links.  `Tree.put` changes one place and
no other, and `Tree.below` lists what stands below a directory without passing through a link.
-/

namespace FeatureLint

/-- A place in a file tree: the names that lead to it from the root. -/
abbrev Place := List String

inductive Node where
  | file (octets : List UInt8)
  | dir
  | link (target : String)
  deriving DecidableEq, Repr

structure Tree where
  /-- The places that are taken, each once, and what stands there. -/
  entries : List (Place × Node) := []
  deriving DecidableEq, Repr

namespace Tree

def get? (t : Tree) (place : Place) : Option Node :=
  if place = [] then some .dir else t.entries.lookup place

def insert (place : Place) (node : Node) : List (Place × Node) → List (Place × Node)
  | [] => [(place, node)]
  | (p, n) :: entries =>
    if p = place then (p, node) :: entries else (p, n) :: insert place node entries

def put (t : Tree) (place : Place) (node : Node) : Tree := ⟨insert place node t.entries⟩

/-- The tree after a place, and all below it, was cleared. -/
def clear (t : Tree) (place : Place) : Tree :=
  ⟨t.entries.filter fun (p, _) => !place.isPrefixOf p⟩

/-- The directories between `top` and the last of `names`. -/
def steps (top : Place) (names : List String) : List Place :=
  (List.range names.length).map fun n => top ++ names.take n

/-- **What stands below a directory**, as the names that lead there from it.  A link to a directory
is listed, but nothing behind it. -/
def below (t : Tree) (top : Place) : List (List String) :=
  t.entries.filterMap fun (place, _) =>
    let names := place.drop top.length
    if top.isPrefixOf place ∧ names ≠ [] ∧ (steps top names).all fun s => t.get? s = some .dir then
      some names
    else none

/-- The files below a directory with their octets, links apart, as relative paths. -/
def filesBelow (t : Tree) (top : Place) : List (Path × List UInt8) :=
  (t.below top).filterMap fun names =>
    match t.get? (top ++ names) with
    | some (.file octets) => some (Path.ofNames names, octets)
    | _ => none

/-- The files below a directory that are new or have other octets than before, ordered by the text
of their relative paths. -/
def changes (before after : Tree) (top : Place) : List (Path × List UInt8) :=
  ((after.filesBelow top).filter fun (p, octets) =>
    before.get? (top ++ p.names) ≠ some (.file octets)).mergeSort fun a b => a.1.text ≤ b.1.text

end Tree

end FeatureLint
