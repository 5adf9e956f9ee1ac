import FeatureLint.Tree.Resolve

/-!
# Making and removing files

The changes to a file tree: directories with all that are missing above them, files, links, and
the removal of whatever stands at a place.  A change that makes several directories may fail after
some of them; the ones that were made stay, so the tree is returned beside the fault.
-/

namespace FeatureLint

namespace Workspace

/-- The workspace after one directory was made.  The directory above it must be there. -/
def makeDir (w : Workspace) (p : Path) : Except SystemCause Workspace :=
  if Tree.maxPath < p.text.utf8ByteSize then .error .nameTooLong
  else match p.names.getLast? with
  | none => .error .exists
  | some last =>
    match w.locate p.parent with
    | .error cause => .error cause
    | .ok place =>
      match w.tree.get? place with
      | none => .error .missing
      | some .dir =>
        if last = ".." then .error .exists
        else if Tree.maxName < last.utf8ByteSize then .error .nameTooLong
        else
          match w.tree.get? (place ++ [last]) with
          | some _ => .error .exists
          | none => .ok { w with tree := w.tree.put (place ++ [last]) .dir }
      | some _ => .error .notDirectory

/-- What becomes of the failure to make a directory: none, if the directory is there. -/
def unlessDir (w : Workspace) (cause : SystemCause) (p : Path) : Option Fault :=
  if w.isDir p then none else some (.system cause p)

/-- The workspace after a directory was made, and the ones missing above it; the names of the path
are given last name first. -/
def makeDirsUp (w : Workspace) (anchor : Path.Anchor) : List String → Workspace × Option Fault
  | [] =>
    let p : Path := ⟨anchor, []⟩
    match w.makeDir p with
    | .ok w => (w, none)
    | .error cause => (w, w.unlessDir cause p)
  | name :: up =>
    let p : Path := ⟨anchor, (name :: up).reverse⟩
    match w.makeDir p with
    | .ok w => (w, none)
    | .error .missing =>
      match w.makeDirsUp anchor up with
      | (w, some fault) => (w, some fault)
      | (w, none) =>
        match w.makeDir p with
        | .ok w => (w, none)
        | .error .missing => (w, some (.system .missing p))
        | .error cause => (w, w.unlessDir cause p)
    | .error cause => (w, w.unlessDir cause p)

def makeDirs (w : Workspace) (p : Path) : Workspace × Option Fault :=
  if p.holdsNul then (w, some .nul) else w.makeDirsUp p.anchor p.names.reverse

/-- The workspace after a file was written.  The directory that holds it must be there. -/
def write (w : Workspace) (p : Path) (octets : List UInt8) : Workspace × Option Fault :=
  if p.holdsNul then (w, some .nul)
  else match w.locateTo true p with
    | .error cause => (w, some (.system cause p))
    | .ok place =>
      match w.tree.get? place with
      | some .dir => (w, some (.system .isDirectory p))
      | _ => ({ w with tree := w.tree.put place (.file octets) }, none)

def writeDeep (w : Workspace) (p : Path) (octets : List UInt8) : Workspace × Option Fault :=
  match w.makeDirs p.parent with
  | (w, some fault) => (w, some fault)
  | (w, none) => w.write p octets

/-- The place that a path names, its last name taken as it is, even if a link stands there. -/
def locateEntry (w : Workspace) (p : Path) : Except SystemCause Place :=
  match p.names.getLast? with
  | none => w.locate p
  | some last => (w.locate p.parent).map (· ++ [last])

def linkDeep (w : Workspace) (p : Path) (target : String) : Workspace × Option Fault :=
  match w.makeDirs p.parent with
  | (w, some fault) => (w, some fault)
  | (w, none) =>
    match w.locateEntry p with
    | .error cause => (w, some (.system cause p))
    | .ok place =>
      match w.tree.get? place with
      | some _ => (w, some (.system .exists p))
      | none => ({ w with tree := w.tree.put place (.link target) }, none)

/-- The workspace after a file, a link or a directory with all below it was removed. -/
def remove (w : Workspace) (p : Path) : Workspace × Option Fault :=
  match w.locateEntry p with
  | .error cause => (w, some (.system cause p))
  | .ok place =>
    match w.tree.get? place with
    | none => (w, some (.system .missing p))
    | some _ => ({ w with tree := w.tree.clear place }, none)

end Workspace

end FeatureLint
