import Rubric.Toml.Basic

namespace Rubric.Toml

inductive Origin where
  /-- By a header of its own. -/
  | header
  /-- As a part of the header of a table inside it. -/
  | implied
  /-- As a part of a dotted key. -/
  | dotted
deriving DecidableEq, Repr

inductive Slot where
  | value (v : Toml)
  | table (origin : Origin) (entries : List (String × Slot))
  /-- The tables that headers in double brackets made, last first. -/
  | tables (last : List (String × Slot)) (earlier : List (List (String × Slot)))

abbrev Entries := List (String × Slot)

namespace Entries

/-- The entries with one replaced or added at the end. -/
def put (key : String) (slot : Slot) : Entries → Entries
  | [] => [(key, slot)]
  | e :: rest => if e.1 = key then (key, slot) :: rest else e :: put key slot rest

/-- Gives a dotted key its value. Tables on the way may be implied or dotted; the one that takes the
value must be dotted unless the key has no dots. -/
def assign (value : Toml) : List String → Entries → Option Entries
  | [], _ => none
  | [key], es =>
    match es.lookup key with
    | none => some (es.put key (.value value))
    | some _ => none
  | key :: rest, es =>
    match es.lookup key with
    | none => (assign value rest []).map fun inner => es.put key (.table .dotted inner)
    | some (.table origin inner) =>
      if origin = .header || (rest.length == 1 && origin != .dotted) then none
      else (assign value rest inner).map fun inner => es.put key (.table origin inner)
    | some (.tables last earlier) =>
      if rest.length = 1 then none
      else (assign value rest last).map fun last => es.put key (.tables last earlier)
    | some (.value _) => none

/-- Changes the table that a path of headers leads to; of several tables the last one counts. -/
def under (change : Entries → Option Entries) : List String → Entries → Option Entries
  | [], es => change es
  | key :: path, es =>
    match es.lookup key with
    | none => (under change path []).map fun inner => es.put key (.table .implied inner)
    | some (.table origin inner) =>
      (under change path inner).map fun inner => es.put key (.table origin inner)
    | some (.tables last earlier) =>
      (under change path last).map fun last => es.put key (.tables last earlier)
    | some (.value _) => none

def openTable (key : String) (es : Entries) : Option Entries :=
  match es.lookup key with
  | none => some (es.put key (.table .header []))
  | some (.table .implied inner) => some (es.put key (.table .header inner))
  | some _ => none

/-- Opens the next of several tables for a header in double brackets. -/
def openNext (key : String) (es : Entries) : Option Entries :=
  match es.lookup key with
  | none => some (es.put key (.tables [] []))
  | some (.tables last earlier) => some (es.put key (.tables [] (last :: earlier)))
  | some _ => none

end Entries

mutual

def Slot.toToml : Slot → Toml
  | .value v => v
  | .table _ entries => .table (tomlEntries entries)
  | .tables last earlier => .array (tomlTables earlier ++ [.table (tomlEntries last)])

def tomlEntries : List (String × Slot) → List (String × Toml)
  | [] => []
  | (key, slot) :: rest => (key, slot.toToml) :: tomlEntries rest

def tomlTables : List (List (String × Slot)) → List Toml
  | [] => []
  | entries :: rest => tomlTables rest ++ [.table (tomlEntries entries)]

end

end Rubric.Toml
