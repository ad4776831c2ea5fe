import Regimen.Text.Blank

/-! TOML values and the tables that collect them. -/
namespace Regimen.Toml

/-- What brought a table into being, which decides what may still be added to it. -/
inductive Origin where
  /-- A table in braces is complete as it stands. -/
  | inline
  /-- A header named it. -/
  | header
  /-- A header named a table inside it. -/
  | parent
  /-- A dotted key passed through it. -/
  | dotted
deriving DecidableEq, Repr

inductive Value where
  | string (s : Text)
  | integer (n : Int)
  /-- A floating-point number as written. -/
  | float (written : Text)
  | boolean (b : Bool)
  /-- A date, a time or both, as written. -/
  | dateTime (written : Text)
  | array (items : List Value)
  | table (origin : Origin) (entries : List (Text × Value))
  /-- The tables under repeated double-bracket headers, the latest last. -/
  | tables (elements : List (List (Text × Value)))

abbrev Entries := List (Text × Value)

namespace Entries

def get? (es : Entries) (key : Text) : Option Value := es.lookup key

def add (es : Entries) (key : Text) (v : Value) : Entries := es ++ [(key, v)]

def set (es : Entries) (key : Text) (v : Value) : Entries :=
  es.map fun e => if e.1 = key then (key, v) else e

end Entries
end Regimen.Toml
