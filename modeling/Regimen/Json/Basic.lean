import Regimen.Text.Digits

/-! JSON values. -/
namespace Regimen

inductive Json where
  | null
  | bool (b : Bool)
  /-- A number as it is written. -/
  | num (written : String)
  | str (s : String)
  | arr (items : List Json)
  | obj (fields : List (String × Json))

namespace Json

def ofNat (n : Nat) : Json := .num (toString n)

def ofInt (n : Int) : Json := .num (toString n)

def ofText (s : Text) : Json := .str (String.ofList s)

def ofOption (encode : α → Json) : Option α → Json
  | none => .null
  | some a => encode a

def get? (name : String) : Json → Option Json
  | .obj fields => fields.lookup name
  | _ => none

/-- As `get?`, where a null field counts as missing. -/
def present? (name : String) (j : Json) : Option Json :=
  match j.get? name with
  | some .null => none
  | found => found

def bool? : Json → Option Bool
  | .bool b => some b
  | _ => none

def str? : Json → Option String
  | .str s => some s
  | _ => none

def text? (j : Json) : Option Text := j.str?.map String.toList

def items? : Json → Option (List Json)
  | .arr items => some items
  | _ => none

def fields? : Json → Option (List (String × Json))
  | .obj fields => some fields
  | _ => none

private def decimal? (digits : Text) : Option Nat :=
  if digits ≠ [] ∧ digits.all Char.isDigit then some (ofDigits 10 digits) else none

def int? : Json → Option Int
  | .num written =>
    match written.toList with
    | '-' :: digits => (decimal? digits).map fun n => -(n : Int)
    | digits => (decimal? digits).map fun n => (n : Int)
  | _ => none

def nat? (j : Json) : Option Nat := j.int?.bind Int.toNat?

end Json
end Regimen
