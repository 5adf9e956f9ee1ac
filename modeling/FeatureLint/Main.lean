import FeatureLint.Command.Run

/-!
# The command

The outer layer: it takes a picture of the files that a run may look at, lets `Command.run` decide
everything, prints what is to be printed and writes what is new.

The picture has all that is below the root, the project file that is named or those in the current
directory and above it, and what stands where the report goes.  A link is pictured as what it leads
to; a link to a directory is pictured as an empty one, since nothing behind it is looked at.
-/

namespace FeatureLint.Command

def placeText (place : Place) : String := (⟨.root, place⟩ : Path).text

/-- The place that a path names, `..` taken by the names alone. -/
def lexicalPlace (cwd : Place) (p : Path) : Place :=
  p.names.foldl (fun place name => if name = ".." then place.dropLast else place ++ [name])
    (if p.anchor = .current then cwd else [])

def pictureOne (t : Tree) (place : Place) : IO Tree := do
  let path ← try IO.FS.realPath (placeText place) catch _ => return t
  if ← path.isDir then return t.put place .dir
  if ← path.pathExists then return t.put place (.file (← IO.FS.readBinFile path).toList)
  return t

/-- The tree with what the disk has at a place, and below it to a certain depth. -/
def picture : Nat → Tree → Place → IO Tree
  | 0, t, place => pictureOne t place
  | depth + 1, t, place => do
    let mut t ← pictureOne t place
    if t.get? place = some .dir then
      for entry in ← (← IO.FS.realPath (placeText place)).readDir do
        let below := place ++ [entry.fileName]
        let isLink := (← entry.path.symlinkMetadata).type matches .symlink
        t ← if isLink then pictureOne t below else picture depth t below
    return t

def pictureTo (depth : Nat) (t : Tree) (place : Place) : IO Tree := do
  let mut t := t
  for n in List.range place.length do
    t ← pictureOne t (place.take n)
  picture depth t place

/-- The picture of all that a run with these arguments may look at. -/
def pictureFor (cwd : Place) (arguments : List String) : IO Tree := do
  let mut t ← pictureTo 0 {} cwd
  match Intent.ofArguments arguments with
  | .ok (.inspect req) =>
    let named := match req.project with
      | some file => [lexicalPlace cwd file]
      | none => (Project.searched ⟨t, cwd⟩).map fun dir => (dir / Project.fileName).names
    for place in named ++ req.report.toList.map (lexicalPlace cwd) do
      t ← pictureTo 0 t place
    pictureTo Tree.maxPath t (lexicalPlace cwd req.root)
  | _ => return t

def print (t : Transcript) : IO Unit := do
  for (channel, text) in t do
    match channel with
    | .output => IO.print text
    | .errors => IO.eprint text

def save (before after : Tree) : IO Unit := do
  for (p, octets) in before.changes after [] do
    IO.FS.createDirAll (placeText p.parent.names)
    IO.FS.writeBinFile (placeText p.names) ⟨octets.toArray⟩

end FeatureLint.Command

open FeatureLint in
/-- **The command.** -/
def main (arguments : List String) : IO UInt32 := do
  let cwd := (Path.ofString (← IO.currentDir).toString).names
  let tree ← Command.pictureFor cwd arguments
  let o := Command.run ⟨tree, cwd⟩ arguments
  Command.print o.transcript
  Command.save tree o.workspace.tree
  match o.fault with
  | some fault => IO.eprintln fault.message
  | none => pure ()
  return o.exitCode.toUInt32
