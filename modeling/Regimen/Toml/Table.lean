import Regimen.Toml.Value

/-! A document is a sequence of statements, and its table is what they add up to. A statement that
contradicts an earlier one makes the whole document invalid. -/
namespace Regimen.Toml

inductive Statement where
  /-- A header in single brackets. -/
  | table (path : List Text)
  /-- A header in double brackets. -/
  | element (path : List Text)
  /-- A value under a key, reached through the tables of a dotted path. -/
  | entry (path : List Text) (key : Text) (value : Value)

namespace Entries

def onLast (f : Entries → Option Entries) : List Entries → Option (List Entries)
  | [] => none
  | [e] => (f e).map ([·])
  | e :: es => (onLast f es).map (e :: ·)

/-- Adds a value under a dotted key. The tables on the way may not have a header of their own, and
the one that receives the value has to owe its existence to dotted keys. -/
def assign (es : Entries) : List Text → Text → Value → Option Entries
  | [], key, v => if (es.get? key).isSome then none else some (es.add key v)
  | k :: path, key, v =>
    match es.get? k with
    | none => (assign [] path key v).map fun sub => es.add k (.table .dotted sub)
    | some (.table .dotted sub) => (assign sub path key v).map fun sub => es.set k (.table .dotted sub)
    | some (.table .parent sub) =>
      if path = [] then none
      else (assign sub path key v).map fun sub => es.set k (.table .parent sub)
    | some (.tables elements) =>
      if path = [] then none
      else (onLast (fun sub => assign sub path key v) elements).map fun els => es.set k (.tables els)
    | some _ => none

/-- Changes the entries that a header path leads to; tables missing on the way are created. -/
def descend (es : Entries) (f : Entries → Option Entries) : List Text → Option Entries
  | [] => f es
  | k :: path =>
    match es.get? k with
    | none => (descend [] f path).map fun sub => es.add k (.table .parent sub)
    | some (.table .inline _) => none
    | some (.table origin sub) => (descend sub f path).map fun sub => es.set k (.table origin sub)
    | some (.tables elements) =>
      (onLast (fun sub => descend sub f path) elements).map fun els => es.set k (.tables els)
    | some _ => none

/-- A header may name a table once, also after headers of tables inside it. -/
def declare (es : Entries) (key : Text) : Option Entries :=
  match es.get? key with
  | none => some (es.add key (.table .header []))
  | some (.table .parent sub) => some (es.set key (.table .header sub))
  | some _ => none

def extend (es : Entries) (key : Text) : Option Entries :=
  match es.get? key with
  | none => some (es.add key (.tables [[]]))
  | some (.tables elements) => some (es.set key (.tables (elements ++ [[]])))
  | some _ => none

def atLast (es : Entries) (f : Entries → Text → Option Entries) (path : List Text) :
    Option Entries :=
  match path.getLast? with
  | none => none
  | some key => es.descend (f · key) path.dropLast

/-- The entries of a document, given those collected so far and the path of the latest header. -/
def collect (es : Entries) (current : List Text) : List Statement → Option Entries
  | [] => some es
  | .table path :: rest => (es.atLast declare path).bind (collect · path rest)
  | .element path :: rest => (es.atLast extend path).bind (collect · path rest)
  | .entry path key v :: rest =>
    (es.descend (·.assign path key v) current).bind (collect · current rest)

def ofStatements (statements : List Statement) : Option Entries := collect [] [] statements

def ofPairs (pairs : List (List Text × Text × Value)) : Option Entries :=
  pairs.foldlM (fun es p => es.assign p.1 p.2.1 p.2.2) []

end Entries
end Regimen.Toml
