namespace DiceBot.Toml

/-- How a table came to be: by a header of its own, by a longer header passing through, by a key
with dots, or as a value in braces. -/
inductive Origin where
  | header
  | passed
  | dotted
  | braces
  deriving DecidableEq, Repr

inductive Node where
  | string (s : String)
  | number (spelling : List Char)
  | time (spelling : List Char)
  | boolean (b : Bool)
  | array (items : List Node)
  | table (origin : Origin) (entries : List (String × Node))
  | tables (elements : List (List (String × Node)))
  deriving Inhabited

abbrev Entries := List (String × Node)

namespace Entries

def get? (es : Entries) (key : String) : Option Node :=
  es.lookup key

def set (key : String) (v : Node) : Entries → Entries
  | [] => [(key, v)]
  | e :: es => if e.1 = key then (key, v) :: es else e :: set key v es

/-- Enters a value under a key with dots. It may open tables and extend those opened like that,
but no table with a header of its own and none in braces. -/
def insert : List String → String → Node → Entries → Option Entries
  | [], key, v, es => if (es.get? key).isSome then none else some (es.set key v)
  | k :: path, key, v, es =>
    match es.get? k with
    | none => (insert path key v []).map fun sub => es.set k (.table .dotted sub)
    | some (.table origin sub) =>
      if origin = .dotted ∨ (origin = .passed ∧ path ≠ []) then
        (insert path key v sub).map fun sub => es.set k (.table origin sub)
      else none
    | some (.tables (last :: others)) =>
      if path = [] then none
      else (insert path key v last).map fun last => es.set k (.tables (last :: others))
    | some _ => none

/-- Changes the table at a path of headers, opening those that are not there. Of several tables of
one header it is the latest. -/
def change (f : Entries → Option Entries) : List String → Entries → Option Entries
  | [], es => f es
  | k :: path, es =>
    match es.get? k with
    | none => (change f path []).map fun sub => es.set k (.table .passed sub)
    | some (.table origin sub) =>
      if origin = .braces then none
      else (change f path sub).map fun sub => es.set k (.table origin sub)
    | some (.tables (last :: others)) =>
      (change f path last).map fun last => es.set k (.tables (last :: others))
    | some _ => none

/-- A table gets its header once; longer headers may have passed through it before. -/
def openTable (key : String) (es : Entries) : Option Entries :=
  match es.get? key with
  | none => some (es.set key (.table .header []))
  | some (.table .passed sub) => some (es.set key (.table .header sub))
  | some _ => none

def openElement (key : String) (es : Entries) : Option Entries :=
  match es.get? key with
  | none => some (es.set key (.tables [[]]))
  | some (.tables elements) => some (es.set key (.tables ([] :: elements)))
  | some _ => none

end Entries

structure Document where
  entries : Entries := []
  current : List String := []

namespace Document

def enter (d : Document) (path : List String) (key : String) (v : Node) : Option Document :=
  (d.entries.change (Entries.insert path key v) d.current).map fun es => { d with entries := es }

def openTable (d : Document) (path : List String) (key : String) : Option Document :=
  (d.entries.change (Entries.openTable key) path).map fun es => ⟨es, path ++ [key]⟩

def openElement (d : Document) (path : List String) (key : String) : Option Document :=
  (d.entries.change (Entries.openElement key) path).map fun es => ⟨es, path ++ [key]⟩

end Document

end DiceBot.Toml
