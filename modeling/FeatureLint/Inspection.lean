import FeatureLint.Corpus
import FeatureLint.Feature.File
import FeatureLint.Names.Register
import FeatureLint.Report

/-!
# Inspecting a corpus

From paths to a report.  The files are read in the order of their paths, whatever order they are
given in, and each becomes a `Reading`: what the file is called, and its outline or the reason why
there is none.  The report depends on the readings and the settings alone (`Report.ofReadings`).  It
has the findings on single files first, then the descriptions and the names that are used more
than once, then the empty cells.

A file that cannot be read does not stop the run.  Only a path that names no file at all does, and
a ceiling that is no number, once there is a count to compare with it.
-/

namespace FeatureLint

/-- What a file is called in a report: by the path from the root to it, if there is one, and by its
name if it is itself the root. -/
def fileId (root p : Path) : String :=
  if p = root then p.name
  else match root.namesFrom? p with
    | some names => (Path.ofNames names).text
    | none => p.text

structure Reading where
  file : String
  /-- The outline of the file, or the reason why it could not be read. -/
  result : Except String Outline

namespace Reading

def outline? (r : Reading) : Option Outline :=
  match r.result with
  | .ok outline => some outline
  | .error _ => none

def summary? (r : Reading) : Option Summary := r.outline?.map fun o => ⟨r.file, o.count⟩

def exceeds (count : Nat) (ceiling : Value) : Bool :=
  match ceiling.number? with
  | some max => max.lt (.ofInt count)
  | none => false

def excess (count : Nat) (ceiling : Value) : String :=
  "Count: " ++ toString count ++ ", Max allowed: " ++ ceiling.shown

def finding? (ceiling : Value) (r : Reading) : Option Finding :=
  match r.result with
  | .error reason => some { kind := .unreadable, files := [r.file], detail := some reason }
  | .ok o =>
    if exceeds o.count ceiling then
      some { kind := .tooManyScenarios, files := [r.file], detail := some (excess o.count ceiling) }
    else none

def emptyCellsOf (file : String) (row : Row) : List Finding :=
  (row.cells.zipIdx 1).filterMap fun (cell, column) =>
    if cell = "" then
      some { kind := .emptyCell, files := [file], line := some row.line, column := some column }
    else none

def emptyCells (r : Reading) : List Finding :=
  match r.outline? with
  | some o => o.rows.flatMap (emptyCellsOf r.file)
  | none => []

def enter (register : Register) (r : Reading) : Register :=
  match r.outline? with
  | some o => register.add r.file o.feature o.names
  | none => register

end Reading

def Duplicate.finding (kind : Finding.Kind) (d : Duplicate) : Finding :=
  { kind, files := d.files, key := some d.key }

namespace Report

def register (s : Settings) (readings : List Reading) : Register :=
  readings.foldl Reading.enter
    (Register.new (nameForm s.caseSensitive.isTruthy) s.withinFile.isTruthy)

/-- **The report on what was read.** -/
def ofReadings (s : Settings) (readings : List Reading) : Report :=
  let names := register s readings
  { findings :=
      readings.filterMap (Reading.finding? s.ceiling)
        ++ names.features.duplicates.map (Duplicate.finding .duplicateFeature)
        ++ names.scenarios.duplicates.map (Duplicate.finding .duplicateScenario)
        ++ (if s.checkCells.isTruthy then readings.flatMap Reading.emptyCells else [])
    summaries := readings.filterMap Reading.summary? }

end Report

namespace Inspection

def visit (w : Workspace) (ceiling : Value) (root p : Path) : Logged Reading :=
  match w.outline p with
  | .error fault =>
    if fault.isUnreadable then
      ⟨[.skipped p fault.message], .ok ⟨fileId root p, .error fault.message⟩⟩
    else .fail fault
  | .ok o =>
    ⟨o.events p ++ [.counted (fileId root p) o.count],
      if ceiling.number?.isSome then .ok ⟨fileId root p, .ok o⟩
      else .error (.notComparable ceiling.typeName)⟩

/-- Reading files, in the order of their paths. -/
def readings (w : Workspace) (ceiling : Value) (root : Path) (paths : List Path) :
    Logged (List Reading) :=
  Logged.each (visit w ceiling root) (Path.sort paths)

/-- **The report on the files at some paths.** -/
def inspect (w : Workspace) (s : Settings) (root : Path) (paths : List Path) : Logged Report :=
  (readings w s.ceiling root paths).andThen fun rs => .ok (.ofReadings s rs)

/-- The report on the feature files at `root` or below it. -/
def inspectAll (w : Workspace) (s : Settings) (root : Path) : Logged Report :=
  (Corpus.find w s.nameFilter s.passedOver root).andThen (inspect w s root)

end Inspection

end FeatureLint
