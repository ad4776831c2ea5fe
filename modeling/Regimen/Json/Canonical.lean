import Regimen.Decimal.Double
import Regimen.Json.Basic

/-! The canonical form of a JSON value: the fields of every object in order of their names, the last of
equal names only, and every number in its shortest form. -/
namespace Regimen.Json

def minWhole : Int := -0x8000000000000000

def maxWhole : Int := 0xFFFFFFFFFFFFFFFF

/-- Whole numbers that fit in 64 bits, signed or not, stand as they are. Any other number is a binary
one, which is written with a point or an exponent. -/
def numberText (written : String) : String :=
  let isWhole := match int? (.num written) with
    | some n => minWhole ≤ n && n ≤ maxWhole && written != "-0"
    | none => false
  let (sign, size) := match written.toList with
    | '-' :: s => (['-'], s)
    | s => ([], s)
  if isWhole then written
  else
    match Double.ofDecimal? (Decimal.ofText size) with
    | some x => String.ofList (sign ++ x.shortest.toText)
    | none => written

def insertField (f : String × Json) : List (String × Json) → List (String × Json)
  | [] => [f]
  | g :: rest =>
    if f.1 = g.1 then g :: rest
    else if f.1 < g.1 then f :: g :: rest
    else g :: insertField f rest

/-- Puts the fields in order of their names; of equal names the last one counts. -/
def sortFields (fields : List (String × Json)) : List (String × Json) := fields.foldr insertField []

mutual

def canonical : Json → Json
  | .num written => .num (numberText written)
  | .arr items => .arr (canonicalItems items)
  | .obj fields => .obj (sortFields (canonicalFields fields))
  | .null => .null
  | .bool b => .bool b
  | .str s => .str s

def canonicalItems : List Json → List Json
  | [] => []
  | j :: rest => canonical j :: canonicalItems rest

def canonicalFields : List (String × Json) → List (String × Json)
  | [] => []
  | (name, j) :: rest => (name, canonical j) :: canonicalFields rest

end

end Regimen.Json
