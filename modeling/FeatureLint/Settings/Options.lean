import FeatureLint.Text.Search
import FeatureLint.Value

/-!
# Options

Options are what a project file or a command line says about the settings: keys with values, in
order.  A key may be written with hyphens, which count as low lines, and a value may be null, which
says nothing.  `Options.given` is what remains, each key once: where a key comes again, it keeps
its place and takes the later value.
-/

namespace FeatureLint

abbrev Options := List (String × Value)

namespace Options

/-- Options with another value for a key; a new key comes last. -/
def put (key : String) (v : Value) : Options → Options
  | [] => [(key, v)]
  | (k, old) :: rest => if k = key then (k, v) :: rest else (k, old) :: put key v rest

def ofPairs (pairs : List (String × Value)) : Options :=
  pairs.foldl (fun options (key, v) => put key v options) []

/-- How a key is read: hyphens are low lines. -/
def readKey (key : String) : String := Text.replaceChar '-' '_' key

/-- **The options that say something**, each key once. -/
def given (options : Options) : Options :=
  ofPairs ((options.filter fun (_, v) => !v.isNull).map fun (key, v) => (readKey key, v))

def get? (key : String) (options : Options) : Option Value := Value.field? key options

end Options

end FeatureLint
