import CachingProxy.Toml.Moment

namespace CachingProxy

/-- How a table came about. -/
inductive TableKind
  /-- On the way to another table that a header names. -/
  | implied
  /-- By a header of its own. -/
  | header
  /-- On the way to the value of a dotted key. -/
  | dotted
  /-- As a value in braces. -/
  | inline
  deriving DecidableEq

inductive Toml
  | text (s : String)
  | integer (n : Int)
  | float
  | boolean (b : Bool)
  | moment (m : Moment)
  | array (items : List Toml)
  | tables (items : List Toml)
  | table (kind : TableKind) (entries : List (String × Toml))

namespace Toml

abbrev Entries := List (String × Toml)

namespace Entries

def get? (key : String) : Entries → Option Toml
  | [] => none
  | (k, v) :: r => if k = key then some v else get? key r

def put (key : String) (v : Toml) : Entries → Entries
  | [] => [(key, v)]
  | (k, w) :: r => if k = key then (k, v) :: r else (k, w) :: put key v r

end Entries

abbrev Change := TableKind → Entries → Option (TableKind × Entries)

/-- Whether a path may lead through a table. Nothing is added to a table in braces, and dotted keys
do not reach into a table that has a header. -/
def isPassable (dotted : Bool) : TableKind → Bool
  | .inline => false
  | .header => !dotted
  | _ => true

/-- Makes a change at the end of a path. Tables that are missing on the way are made; among tables
of one name the way goes through the last one. -/
def changeAt (dotted : Bool) (f : Change) : List String → Change
  | [], kind, es => f kind es
  | key :: path, kind, es =>
    match Entries.get? key es with
    | none => do
      let (k, inner) ← changeAt dotted f path (if dotted then .dotted else .implied) []
      return (kind, Entries.put key (.table k inner) es)
    | some (.table k inner) =>
      if isPassable dotted k then do
        let (k, inner) ← changeAt dotted f path k inner
        return (kind, Entries.put key (.table k inner) es)
      else none
    | some (.tables items) =>
      match items.getLast? with
      | some (.table k inner) => do
        let (k, inner) ← changeAt dotted f path k inner
        return (kind, Entries.put key (.tables (items.dropLast ++ [.table k inner])) es)
      | _ => none
    | some _ => none

/-- Adds a value at the end of a dotted key. No key comes twice, and only keys with dots add to a
table that came about by them. -/
def addValue (path : List String) (key : String) (v : Toml) : Change :=
  changeAt true
    (fun kind es =>
      if decide (kind = .dotted) = path.isEmpty || (Entries.get? key es).isSome then none
      else some (kind, es ++ [(key, v)]))
    path

/-- Opens the table that a header names; a table that is only implied so far becomes its own. -/
def openTable (path : List String) (key : String) : Change :=
  changeAt false
    (fun kind es =>
      match Entries.get? key es with
      | none => some (kind, es ++ [(key, .table .header [])])
      | some (.table .implied inner) => some (kind, Entries.put key (.table .header inner) es)
      | some _ => none)
    path

/-- Opens one more table of the name in a header with double brackets. -/
def openNext (path : List String) (key : String) : Change :=
  changeAt false
    (fun kind es =>
      match Entries.get? key es with
      | none => some (kind, es ++ [(key, .tables [.table .header []])])
      | some (.tables items) =>
        some (kind, Entries.put key (.tables (items ++ [.table .header []])) es)
      | some _ => none)
    path

end Toml
end CachingProxy
