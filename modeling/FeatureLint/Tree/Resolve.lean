import FeatureLint.Fault
import FeatureLint.Tree.Basic

/-!
# From paths to places

A path leads to a place name by name: `..` goes to the directory above, a symbolic link is replaced
by its target, and every name but the last must lead to a directory.  `Tree.walk` takes the names
and a number of links that may still be followed; a path that needs more leads nowhere.

The last name may be free: `walk` then gives the place where something could be made.  Whoever walks
in order to make a file is refused where a link asks for a directory by a slash at the end of its
target, whatever stands there.
-/

namespace FeatureLint

namespace Tree

def maxLinks : Nat := 40

def maxName : Nat := 255

def maxPath : Nat := 4095

/-- What is written for a slash at the end of the target of a link: a name that no file has. -/
def slash : String := ""

/-- The names in the target of a link.  A slash at the end asks for a directory, and so does the
name `.`; both are kept. -/
def targetNames (target : String) : List String :=
  let names := ((target.toList.splitOn '/').map String.ofList).filter (· ≠ "")
  if target.toList.getLast? = some '/' then names ++ [slash] else names

/-- Whether a name is that of something, and not of a directory told by its place. -/
def isProper (name : String) : Bool := name ≠ "." && name ≠ ".." && name ≠ slash

def endsInSlash (names : List String) : Bool :=
  match names with
  | [name, last] => isProper name && last = slash
  | _ => false

/-- Where the target of a link starts, if the link stands in the directory `here`. -/
def targetStart (here : Place) (target : String) : Place :=
  if target.toList.head? = some '/' then [] else here

/-- The place to which names lead from the place `here`; `making` tells that a file is to be made
there. -/
def walk (t : Tree) (making : Bool) (links : Nat) (here : Place) (names : List String) :
    Except SystemCause Place :=
  match names with
  | [] => .ok here
  | name :: rest =>
    match t.get? here with
    | some .dir =>
      if name = "." || name = slash then walk t making links here rest
      else if name = ".." then walk t making links here.dropLast rest
      else if making && endsInSlash (name :: rest) then .error .isDirectory
      else if maxName < name.utf8ByteSize then .error .nameTooLong
      else
        match t.get? (here ++ [name]) with
        | some (.link target) =>
          match links with
          | 0 => .error .tooManyLinks
          | links + 1 =>
            walk t making links (targetStart here target) (targetNames target ++ rest)
        | some _ => walk t making links (here ++ [name]) rest
        | none => if rest = [] then .ok (here ++ [name]) else .error .missing
    | some _ => .error .notDirectory
    | none => .error .missing
termination_by (links, names.length)

end Tree

structure Workspace where
  tree : Tree
  cwd : Place
  deriving DecidableEq, Repr

namespace Workspace

def start (w : Workspace) (p : Path) : Place :=
  match p.anchor with
  | .current => w.cwd
  | _ => []

/-- The place to which a path leads; `making` tells that a file is to be made there. -/
def locateTo (w : Workspace) (making : Bool) (p : Path) : Except SystemCause Place :=
  if Tree.maxPath < p.text.utf8ByteSize then .error .nameTooLong
  else w.tree.walk making Tree.maxLinks (w.start p) p.names

def locate (w : Workspace) (p : Path) : Except SystemCause Place := w.locateTo false p

def stat (w : Workspace) (p : Path) : Except SystemCause Node :=
  match w.locate p with
  | .error cause => .error cause
  | .ok place =>
    match w.tree.get? place with
    | some node => .ok node
    | none => .error .missing

/-- What stands where a path leads, if anything does.  A path that leads nowhere is no fault here,
apart from one with too long a name. -/
def node? (w : Workspace) (p : Path) : Except Fault (Option Node) :=
  if p.holdsNul then .ok none
  else match w.stat p with
    | .ok node => .ok (some node)
    | .error .nameTooLong => .error (.system .nameTooLong p)
    | .error _ => .ok none

def exists? (w : Workspace) (p : Path) : Except Fault Bool := (w.node? p).map Option.isSome

def isFile? (w : Workspace) (p : Path) : Except Fault Bool :=
  (w.node? p).map fun
    | some (.file _) => true
    | _ => false

def isDir (w : Workspace) (p : Path) : Bool :=
  match w.node? p with
  | .ok (some .dir) => true
  | _ => false

/-- **The octets of the file to which a path leads.** -/
def read (w : Workspace) (p : Path) : Except Fault (List UInt8) :=
  if p.holdsNul then .error .nul
  else match w.stat p with
    | .ok (.file octets) => .ok octets
    | .ok _ => .error (.system .isDirectory p)
    | .error cause => .error (.system cause p)

end Workspace

end FeatureLint
