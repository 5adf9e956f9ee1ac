import FeatureLint.Event
import FeatureLint.Settings.Basic
import FeatureLint.Tree.Resolve

/-!
# The corpus of a run

Which files a run looks at.  Below a directory these are all files with a name that the filter
takes, unless one of the directories on the way to them, from the given one on, is to be passed
over.  A link to a file is as good as a file, but nothing behind a link to a directory is looked at.
A run may also be given a single file.  Where there is nothing at all, there is nothing to look at,
which is no fault.
-/

namespace FeatureLint.Corpus

/-- The names that lead from `root` to everything below it.  What is no directory has nothing but
itself. -/
def namesBelow (w : Workspace) (root : Path) : List (List String) :=
  match w.locate root with
  | .ok place => if w.tree.get? place = some .dir then w.tree.below place else [[]]
  | .error _ => [[]]

def isPassedOver (passedOver : List Scalar) (dirs : List String) : Bool :=
  dirs.any fun dir => passedOver.contains (.text dir)

/-- Whether names lead to a feature file, as far as the names tell. -/
def isWanted (pattern : Pattern) (passedOver : List Scalar) (root : Path) (names : List String) :
    Bool :=
  pattern.search (root / Path.ofNames names).name && !isPassedOver passedOver names.dropLast

def filesAmong (w : Workspace) : List Path → Except Fault (List Path)
  | [] => .ok []
  | p :: paths =>
    match w.isFile? p with
    | .error fault => .error fault
    | .ok isFile => (filesAmong w paths).map fun files => if isFile then p :: files else files

/-- The feature files at `root` or below it, in no order.  A filter that is no pattern is a fault as
soon as there is a name to try it on. -/
def select (w : Workspace) (filter : NameFilter) (passedOver : List Scalar) (root : Path) :
    Except Fault (List Path) :=
  match filter, namesBelow w root with
  | .pattern p, found =>
    filesAmong w ((found.filter (isWanted p passedOver root)).map (root / Path.ofNames ·))
  | .value _, [] => .ok []
  | .value v, _ :: _ => .error (.noMember v.typeName "search")

/-- **The feature files at `root` or below it**, in the order of paths. -/
def find (w : Workspace) (filter : NameFilter) (passedOver : List Scalar) (root : Path) :
    Logged (List Path) :=
  match w.exists? root with
  | .error fault => .fail fault
  | .ok false => ⟨[.rootMissing root], .ok []⟩
  | .ok true =>
    match select w filter passedOver root with
    | .error fault => .fail fault
    | .ok files => ⟨[.found files.length root], .ok (Path.sort files)⟩

end FeatureLint.Corpus
