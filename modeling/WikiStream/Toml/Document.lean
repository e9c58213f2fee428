import WikiStream.Dict
import WikiStream.Toml.Value

namespace WikiStream.Toml

structure Key where
  parents : List String := []
  name : String
  deriving DecidableEq, Repr

def Key.path (k : Key) : List String := k.parents ++ [k.name]

/-- How a table came about. -/
inductive Origin
  | header
  | passed
  | dotted
  deriving DecidableEq, Repr

inductive Node
  | value (value : Value)
  | table (origin : Origin) (entries : List (String × Node))
  /-- Tables under one header that makes a new one each time; the latest comes first. -/
  | tables (items : List (List (String × Node)))

abbrev Entries := List (String × Node)

namespace Entries

/-- Changes the table to which the keys lead; missing tables on the way come about by `way`. A
dotted key leads through no table that has a header, and nothing leads through a value. -/
def within (way : Origin) (f : Origin → Entries → Option Entries) :
    List String → Origin → Entries → Option Entries
  | [], origin, es => f origin es
  | key :: keys, _, es =>
    match es.lookup key with
    | none => (within way f keys way []).map fun inner ↦ Dict.put key (.table way inner) es
    | some (.table origin inner) =>
      if way = .dotted && origin = .header then none
      else (within way f keys origin inner).map fun inner ↦ Dict.put key (.table origin inner) es
    | some (.tables (item :: items)) =>
      (within way f keys .header item).map fun item ↦ Dict.put key (.tables (item :: items)) es
    | _ => none

/-- Adds a value under a dotted key. Its name must be new, in a table that came about by dotted keys
as well. -/
def assign (k : Key) (v : Value) (es : Entries) : Option Entries :=
  within .dotted (fun origin es ↦
    if k.parents ≠ [] && origin ≠ .dotted then none
    else if (es.lookup k.name).isSome then none
    else some (Dict.put k.name (.value v) es)) k.parents .header es

/-- A table under a header may exist already, but only on the way to other tables. It then leaves
its place for the end. -/
def openTable (k : Key) (es : Entries) : Option Entries :=
  within .passed (fun _ es ↦
    match es.lookup k.name with
    | none => some (Dict.put k.name (.table .header []) es)
    | some (.table .passed inner) =>
      some (es.filter (·.1 ≠ k.name) ++ [(k.name, .table .header inner)])
    | _ => none) k.parents .header es

def openItem (k : Key) (es : Entries) : Option Entries :=
  within .passed (fun _ es ↦
    match es.lookup k.name with
    | none => some (Dict.put k.name (.tables [[]]) es)
    | some (.tables items) => some (Dict.put k.name (.tables ([] :: items)) es)
    | _ => none) k.parents .header es

end Entries

mutual

def Node.toValue : Node → Value
  | .value v => v
  | .table _ es => .table (Entries.toValues es)
  | .tables items => .list (Entries.allToValues items).reverse

def Entries.toValues : Entries → List (String × Value)
  | [] => []
  | (key, node) :: rest => (key, node.toValue) :: Entries.toValues rest

def Entries.allToValues : List Entries → List Value
  | [] => []
  | es :: rest => .table (Entries.toValues es) :: Entries.allToValues rest

end

def tableOf? (pairs : List (Key × Value)) : Option Value :=
  (pairs.foldlM (fun es p ↦ Entries.assign p.1 p.2 es) ([] : Entries)).map fun es ↦
    .table (Entries.toValues es)

inductive Statement
  | assign (key : Key) (value : Value)
  | table (key : Key)
  | item (key : Key)

structure Document where
  entries : Entries := []
  current : List String := []

namespace Document

def add (d : Document) : Statement → Option Document
  | .assign k v =>
    (Entries.within .passed (fun _ es ↦ es.assign k v) d.current .header d.entries).map fun es ↦
      { d with entries := es }
  | .table k => (d.entries.openTable k).map fun es ↦ ⟨es, k.path⟩
  | .item k => (d.entries.openItem k).map fun es ↦ ⟨es, k.path⟩

def ofStatements? (statements : List Statement) : Option Document := statements.foldlM add {}

end Document

end WikiStream.Toml
