import FeatureLint.Event
import FeatureLint.Feature.Outline
import FeatureLint.Text.Newline
import FeatureLint.Tree.Resolve

/-!
# Feature files

A feature file is read in four steps: its octets, the characters that they encode in UTF-8 after a
byte order mark that may be there, its lines, and their outline.  The first two can fail, and then
the file is *unreadable*.  A path that no file system takes is another matter: it names no file at
all.
-/

namespace FeatureLint

/-- Whether a fault says that a file cannot be read.  Such a fault goes into the report, and the
run goes on. -/
def Fault.isUnreadable : Fault → Bool
  | .system .. | .encoding _ => true
  | _ => false

def Outline.ofOctets (octets : List UInt8) : Except Text.Utf8.Flaw Outline :=
  (Text.Utf8.decodeMarked octets).map fun cs => read (Text.lines (Text.unifyNewlines cs))

/-- **The outline of the feature file to which a path leads.** -/
def Workspace.outline (w : Workspace) (p : Path) : Except Fault Outline :=
  match w.read p with
  | .error fault => .error fault
  | .ok octets =>
    match Outline.ofOctets octets with
    | .error flaw => .error (.encoding flaw)
    | .ok outline => .ok outline

def Outline.events (o : Outline) (p : Path) : List Event := o.tableEnds.map (Event.tableEnd p)

def Workspace.readFeature (w : Workspace) (p : Path) : Logged Outline :=
  match w.outline p with
  | .error fault => .fail fault
  | .ok outline => ⟨outline.events p, .ok outline⟩

end FeatureLint
