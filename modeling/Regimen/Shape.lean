import Regimen.Json.Basic
import Regimen.Text.Quoted
import Regimen.Uri.Parser

/-! The shapes that JSON values have to have, and reading a value by its shape. Reading gives a normal
form, in which every record is an object; of a value without the shape it tells what is wrong first. -/
namespace Regimen

/-- The whole numbers that fit, and what messages call them. -/
structure WholeRange where
  low : Int
  high : Int
  name : String

def WholeRange.unsigned : WholeRange := ⟨0, 0xFFFFFFFF, "u32"⟩

def WholeRange.signed : WholeRange := ⟨-0x80000000, 0x7FFFFFFF, "i32"⟩

/-- How a record has a part. -/
inductive Field where
  | named (name : String)
  /-- May be missing, whatever its shape. -/
  | defaulted (name : String)
  /-- Another record, or a table, whose fields stand among those of this one. -/
  | spread

inductive Shape where
  | any
  | truth
  | text
  | real
  | whole (range : WholeRange)
  | address
  /-- One of some words. -/
  | word (words : List String)
  /-- Null, or of a shape. -/
  | optional (shape : Shape)
  /-- A truth value, or of a shape. -/
  | switch (shape : Shape)
  | list (items : Shape)
  | tuple (length : Nat) (items : Shape)
  | table (values : Shape)
  /-- A table whose keys are addresses. -/
  | addressTable (values : Shape)
  | record (name : String) (fields : List (Field × Shape))
  /-- Of the first shape that fits. -/
  | either (name : String) (choices : List Shape)

inductive Mismatch where
  | kind (found : Json) (expected : String)
  | range (found : Int) (expected : String)
  | length (found : Nat) (expected : String)
  | missingField (name : String)
  | noChoice (name : String)
  | unknownWord (found : String) (words : List String)
  /-- An object in place of a word has more than one field, or none. -/
  | notOneWord
  | address (cause : UriError) (found : String)

namespace Mismatch

def describe : Json → String
  | .null => "null"
  | .bool b => if b then "boolean `true`" else "boolean `false`"
  | .num written =>
    match Json.int? (.num written) with
    | some _ => "integer `" ++ written ++ "`"
    | none => "floating point `" ++ written ++ "`"
  | .str s => "string " ++ String.ofList (Text.quoted s.toList)
  | .arr _ => "sequence"
  | .obj _ => "map"

def wordsText (words : List String) : String :=
  match words.map fun w => "`" ++ w ++ "`" with
  | [a] => a
  | [a, b] => a ++ " or " ++ b
  | quoted => "one of " ++ ", ".intercalate quoted

def message : Mismatch → String
  | .kind found expected => "invalid type: " ++ describe found ++ ", expected " ++ expected
  | .range found expected => "invalid value: integer `" ++ toString found ++ "`, expected " ++ expected
  | .length found expected => "invalid length " ++ toString found ++ ", expected " ++ expected
  | .missingField name => "missing field `" ++ name ++ "`"
  | .noChoice name => "data did not match any variant of untagged enum " ++ name
  | .unknownWord found words => "unknown variant `" ++ found ++ "`, expected " ++ wordsText words
  | .notOneWord => "invalid value: map, expected map with a single key"
  | .address cause found => cause.message ++ ": " ++ String.ofList (Text.quoted found.toList)

end Mismatch

namespace Field

def name? : Field → Option String
  | .named name | .defaulted name => some name
  | .spread => none

end Field

namespace Shape

abbrev Fields := List (Field × Shape)

def unsigned : Shape := .whole .unsigned

def signed : Shape := .whole .signed

def need (name : String) (s : Shape) : Field × Shape := (.named name, s)

def may (name : String) (s : Shape) : Field × Shape := (.named name, .optional s)

def among (s : Shape) : Field × Shape := (.spread, s)

def elements (n : Nat) : String := if n = 1 then "1 element" else toString n ++ " elements"

def recordText (name : String) : String := "struct " ++ name

def isOptional : Shape → Bool
  | .optional _ => true
  | _ => false

def hasField (fields : Fields) (name : String) : Bool := fields.any fun f => f.1.name? == some name

def missing? (fields : Fields) (entries : List (String × Json)) : Option String :=
  fields.findSome? fun (f, s) =>
    match f with
    | .named name => if s.isOptional || (entries.lookup name).isSome then none else some name
    | _ => none

def fault? (results : List (String × Except Mismatch Json)) (entries : List (String × Json)) :
    Option Mismatch :=
  entries.findSome? fun (name, _) =>
    match results.lookup name with
    | some (.error m) => some m
    | _ => none

def readAddress (s : String) : Except Mismatch Unit :=
  match Uri.parse s.toList with
  | .ok _ => .ok ()
  | .error cause => .error (.address cause s)

/-- A word may also stand as the only field of an object, which is null. -/
def readWord (words : List String) (j : Json) : Except Mismatch Json :=
  match j with
  | .str s => if s ∈ words then .ok j else .error (.unknownWord s words)
  | .obj [(s, content)] =>
    if s ∈ words then
      match content with
      | .null => .ok (.str s)
      | _ => .error (.kind content "unit")
    else .error (.unknownWord s words)
  | .obj _ => .error .notOneWord
  | _ => .error (.kind j "string or map")

def readWhole (range : WholeRange) (j : Json) : Except Mismatch Json :=
  match j.int? with
  | some n => if range.low ≤ n ∧ n ≤ range.high then .ok j else .error (.range n range.name)
  | none => .error (.kind j range.name)

/-- A record may also stand as the list of its fields in order; `held` says that it is part of a spread
record, of which lists with too many elements are told in other words. -/
def surplus (held : Bool) (found expected : Nat) : Mismatch :=
  .length found (if held then elements expected ++ " in sequence" else "fewer elements in array")

mutual

def read (held : Bool) : Shape → Json → Except Mismatch Json
  | .any, j => .ok j
  | .truth, j =>
    match j with
    | .bool _ => .ok j
    | _ => .error (.kind j "a boolean")
  | .text, j =>
    match j with
    | .str _ => .ok j
    | _ => .error (.kind j "a string")
  | .real, j =>
    match j with
    | .num _ => .ok j
    | _ => .error (.kind j "f32")
  | .whole range, j => readWhole range j
  | .address, j =>
    match j with
    | .str s => (readAddress s).map fun _ => j
    | _ => .error (.kind j "a string representing an URL")
  | .word words, j => readWord words j
  | .optional s, j =>
    match j with
    | .null => .ok .null
    | _ => read held s j
  | .switch s, j =>
    match j with
    | .bool _ => .ok j
    | _ => read held s j
  | .list s, j =>
    match j with
    | .arr items => (items.mapM (read held s)).map .arr
    | _ => .error (.kind j "a sequence")
  | .tuple length s, j =>
    match j with
    | .arr items =>
      if items.length = length then (items.mapM (read held s)).map .arr
      else .error (.length items.length ("an array of length " ++ toString length))
    | _ => .error (.kind j ("an array of length " ++ toString length))
  | .table s, j =>
    match j with
    | .obj entries =>
      (entries.mapM fun e => (read held s e.2).map (e.1, ·)).map .obj
    | _ => .error (.kind j "a map")
  | .addressTable s, j =>
    match j with
    | .obj entries =>
      (entries.mapM fun (e : String × Json) =>
        (readAddress e.1).bind fun _ => (read held s e.2).map (e.1, ·)).map .obj
    | _ => .error (.kind j "map")
  | .record name fields, j =>
    match j with
    | .obj entries =>
      let results := readNamed held fields entries
      match fault? results entries, missing? fields entries with
      | some m, _ => .error m
      | none, some field => .error (.missingField field)
      | none, none =>
        let own := results.filterMap fun (field, result) => result.toOption.map (field, ·)
        let rest := entries.filter fun e => !hasField fields e.1
        (readSpread fields rest).map fun spread => .obj (own ++ spread)
    | .arr items =>
      if fields.all fun f => f.1.name?.isSome then
        let whole := recordText name ++ " with " ++ elements fields.length
        match readInOrder held whole fields 0 items with
        | .error m => .error m
        | .ok own =>
          if fields.length < items.length then .error (surplus held items.length fields.length)
          else .ok (.obj own)
      else .error (.kind j (recordText name))
    | _ => .error (.kind j (recordText name))
  | .either name choices, j =>
    match readFirst choices j with
    | some v => .ok v
    | none => .error (.noChoice name)

def readNamed (held : Bool) : Fields → List (String × Json) → List (String × Except Mismatch Json)
  | [], _ => []
  | (f, s) :: rest, entries =>
    match f.name?.bind fun name => (entries.lookup name).map (name, ·) with
    | some (name, v) => (name, read held s v) :: readNamed held rest entries
    | none => readNamed held rest entries

/-- Reads the spread fields, from the entries that are left for them. -/
def readSpread : Fields → List (String × Json) → Except Mismatch (List (String × Json))
  | [], _ => .ok []
  | (f, s) :: rest, entries =>
    match f with
    | .spread => do
      let own ← read true s (.obj entries)
      return (own.fields?.getD []) ++ (← readSpread rest entries)
    | _ => readSpread rest entries

def readInOrder (held : Bool) (whole : String) :
    Fields → Nat → List Json → Except Mismatch (List (String × Json))
  | [], _, _ => .ok []
  | (f, s) :: rest, i, items =>
    match f, items with
    | .defaulted _, [] => readInOrder held whole rest (i + 1) []
    | _, [] => .error (.length i whole)
    | f, v :: items => do
      let v ← read held s v
      return ((f.name?.getD "", v) :: (← readInOrder held whole rest (i + 1) items))

def readFirst : List Shape → Json → Option Json
  | [], _ => none
  | s :: rest, j =>
    match read true s j with
    | .ok v => some v
    | .error _ => readFirst rest j

end

end Shape
end Regimen
