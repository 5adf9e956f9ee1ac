import FeatureLint.Text.Blank
import Std.Data.TreeMap

/-!
# Names and the files that use them

An `Index` remembers under which names files were entered, to find the names that are used more
than once.  Names are compared by a *form*, given when the index is made: the name itself, or its
case folding.  Names of one form are one entry, which is shown by the spelling that came first.
A name of blanks is not entered.

A name is a duplicate if two files use it, or if one file uses it twice and the index is told to
look within files.
-/

namespace FeatureLint

structure Entry where
  /-- The spelling that came first. -/
  spelling : String
  /-- The files that use the name, in the order of first use, and how often each does. -/
  uses : List (String × Nat)
  deriving DecidableEq, Repr

structure Duplicate where
  key : String
  /-- The files, in order of code points, each once. -/
  files : List String
  deriving DecidableEq, Repr

structure Index where
  form : String → String
  withinFile : Bool
  /-- The names, by their forms. -/
  entries : Std.TreeMap String Entry := {}

namespace Entry

def bump (file : String) : List (String × Nat) → List (String × Nat)
  | [] => [(file, 1)]
  | (f, n) :: uses => if f = file then (f, n + 1) :: uses else (f, n) :: bump file uses

def use (key file : String) : Option Entry → Entry
  | none => ⟨key, [(file, 1)]⟩
  | some e => { e with uses := bump file e.uses }

/-- The files that use a name, in order of code points. -/
def files (e : Entry) : List String := (e.uses.map (·.1)).mergeSort (· ≤ ·)

def total (e : Entry) : Nat := e.uses.foldl (fun n use => n + use.2) 0

/-- Whether a name is used more than once, in the sense of the index. -/
def isDuplicate (withinFile : Bool) (e : Entry) : Bool :=
  1 < e.uses.length || (withinFile && 1 < e.total)

end Entry

namespace Index

def get? (ix : Index) (key : String) : Option Entry := ix.entries[ix.form key]?

def add (ix : Index) (key file : String) : Index :=
  if Text.isBlankText key then ix
  else { ix with entries := ix.entries.insert (ix.form key) (.use key file (ix.get? key)) }

def addAll (ix : Index) (file : String) (keys : List String) : Index :=
  keys.foldl (fun ix key => ix.add key file) ix

def files (ix : Index) (key : String) : List String :=
  match ix.get? key with
  | some e => e.files
  | none => []

/-- **The names that are used more than once**, ordered by their spelling. -/
def duplicates (ix : Index) : List Duplicate :=
  ((ix.entries.values.filter (Entry.isDuplicate ix.withinFile)).map
    fun e => Duplicate.mk e.spelling e.files).mergeSort fun d d' => d.key ≤ d'.key

end Index

end FeatureLint
