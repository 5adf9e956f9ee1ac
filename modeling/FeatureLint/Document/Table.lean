import FeatureLint.Fault
import FeatureLint.Text.Search
import FeatureLint.Value

/-!
# Tables of a document

A document builds up its tables line by line: a header opens a table, and each pair below it adds a
field.  The table that is open is told by the *way* to it from the document as a whole: the names
to follow, and where the last one of a list of tables is meant.

A header must not open a table again.  It may open one that is there only because a longer header
passed through it; the names of these are the *passed* ones.  A name on the way of a header or a
pair may lead to a value that is no table.  The fault then depends on the value, and not all values
are refused: a header enters a list at its last member, and there it may open what is open already.
-/

namespace FeatureLint.Document

inductive Step where
  | name (key : String)
  | last
  deriving DecidableEq, Repr

/-- Fields with another value under a name; a new name comes last. -/
def put (key : String) (v : Value) : List (String × Value) → List (String × Value)
  | [] => [(key, v)]
  | (k, old) :: fields => if k = key then (k, v) :: fields else (k, old) :: put key v fields

/-- The fault of a value that was taken for a table: one that takes no name, or, if it holds the
name, one whose members have none. -/
def notTable (key : String) : Value → Fault
  | .table .. | .list _ => .namedMember .list
  | .scalar (.text s) =>
    if Text.contains s key then .namedMember .text else .notAssignable (Value.text s).typeName
  | v => .notSearchable v.typeName

def change {α : Type} (f : Value → Except Fault (Value × α)) :
    List Step → Value → Except Fault (Value × α)
  | [], v => f v
  | .name key :: way, .table form fields =>
    match Value.field? key fields with
    | none => .error .document
    | some v => (change f way v).map fun (v, a) => (.table form (put key v fields), a)
  | .last :: way, .list items =>
    match items.getLast? with
    | none => .error .document
    | some v => (change f way v).map fun (v, a) => (.list (items.dropLast ++ [v]), a)
  | _ :: _, _ => .error .document

/-- A value after a change to the table that names lead to.  Tables that are missing on the way are
made, and empty names are passed over. -/
def changeBelow {α : Type} (f : Value → Except Fault (Value × α)) :
    List String → Value → Except Fault (Value × α)
  | [], v => f v
  | key :: names, v =>
    if key = "" then changeBelow f names v
    else
      match v with
      | .table form fields =>
        let child := (Value.field? key fields).getD (.table .plain [])
        (changeBelow f names child).map fun (v, a) => (.table form (put key v fields), a)
      | v => .error (notTable key v)

/-- A table with one more field; what is no table has every field already. -/
def addField (key : String) (field : Value) : Value → Except Fault Value
  | .table form fields =>
    if (Value.field? key fields).isSome then .error .document
    else .ok (.table form (put key field fields))
  | _ => .error .document

/-! ### Headers -/

structure Opened where
  value : Value
  way : List Step
  passed : List String

def fresh (many : Bool) : Value :=
  if many then .list [.table .plain []] else .table .plain []

/-- What stands under the last name of a header after the header opened it. -/
def reopen (many : Bool) (key : String) (passed : List String) (v : Value) :
    Except Fault (Value × List String) :=
  if passed.contains key then
    if many then .error .document else .ok (v, passed.erase key)
  else if many then
    match v with
    | .list items => .ok (.list (items ++ [.table .plain []]), passed)
    | v => .error (.noMember v.typeName "append")
  else .error .document

/-- What a header does next to a value on its way: a header of one of several tables enters a list
at once. -/
def enter (many : Bool) (next : Value → Except Fault Opened) (v : Value) : Except Fault Opened :=
  if !many then next v
  else
    match v with
    | .table .. => next v
    | .list items =>
      match items.getLast? with
      | none => .error (.outOfRange .list)
      | some last => (next last).map fun o =>
        { o with value := .list (items.dropLast ++ [o.value]), way := .last :: o.way }
    | .scalar (.text s) =>
      match s.toList.getLast? with
      | none => .error (.outOfRange .text)
      | some c => next (.text (String.singleton c))
    | v => .error (.notSubscriptable v.typeName)

def withField (many : Bool) (form : TableForm) (fields : List (String × Value)) (key : String)
    (next : Value → Except Fault Opened) (v : Value) : Except Fault Opened :=
  (enter many next v).map fun o =>
    { o with value := .table form (put key o.value fields), way := .name key :: o.way }

def lastMember (v : Value) : Except Fault Value :=
  match v with
  | .list items =>
    match items.getLast? with
    | none => .error (.outOfRange .list)
    | some last => .ok last
  | .scalar (.text s) =>
    match s.toList.getLast? with
    | none => .error (.outOfRange .text)
    | some c => .ok (.text (String.singleton c))
  | v => .error (.notSubscriptable v.typeName)

def withLast (v : Value) (o : Opened) : Opened :=
  match v with
  | .list items =>
    { o with value := .list (items.dropLast ++ [o.value]), way := .last :: o.way }
  | _ => o

/-- **A value after a header opened a table in it.** -/
def openTable (many : Bool) (passed : List String) : List String → Value → Except Fault Opened
  | [], v => .ok ⟨v, [], passed⟩
  | key :: names, v =>
    let isLast := names.isEmpty
    if key = "" then .error .document
    else
      match v with
      | .table form fields =>
        match Value.field? key fields with
        | some child =>
          if isLast then
            match reopen many key passed child with
            | .error fault => .error fault
            | .ok (child, passed) =>
              withField many form fields key (openTable many passed names) child
          else withField many form fields key (openTable many passed names) child
        | none =>
          let passed := if isLast then passed else passed ++ [key]
          withField many form fields key (openTable many passed names) (fresh (many && isLast))
      | v =>
        match lastMember v with
        | .error fault => .error fault
        | .ok (.table form fields) =>
          let child := (Value.field? key fields).getD (fresh (many && isLast))
          (withField many form fields key (openTable many passed names) child).map (withLast v)
        | .ok last => .error (notTable key last)

end FeatureLint.Document
