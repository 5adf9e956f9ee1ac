import FeatureLint.Feature.Outline
import FeatureLint.Names.Index
import FeatureLint.Text.CaseFold

/-!
# The register of a run

One run over a corpus keeps two indices, one for the descriptions of features and one for the
names of scenarios.  A file has one description at most, so only the second can find a name twice
in one file.
-/

namespace FeatureLint

/-- The form by which names are compared: themselves, or their case folding. -/
def nameForm (caseSensitive : Bool) (name : String) : String :=
  if caseSensitive then name else Text.fold name

structure Register where
  features : Index
  scenarios : Index

namespace Register

def new (form : String → String) (withinFile : Bool) : Register :=
  ⟨{ form, withinFile := false }, { form, withinFile }⟩

def addFeature (r : Register) (file : String) : Option String → Register
  | some key => { r with features := r.features.add key file }
  | none => r

def addScenarios (r : Register) (file : String) (names : List String) : Register :=
  { r with scenarios := r.scenarios.addAll file names }

def add (r : Register) (file : String) (feature : Option String) (names : List String) :
    Register :=
  (r.addFeature file feature).addScenarios file names

end Register

end FeatureLint
