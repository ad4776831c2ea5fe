import Regimen.Toml.Scalar
import Regimen.Toml.Table

/-! Keys, values and whole documents of TOML. -/
namespace Regimen.Toml
open Reader

/-- Values may nest this deep, and a key may have as many parts. -/
def maxNesting : Nat := 79

def isBareKey (c : Char) : Bool := c.isAlphanum || c == '_' || c == '-'

def simpleKey : Reader Text := do
  if ← sees [quote] then basicString
  else if ← sees [apostrophe] then literalString
  else span1 isBareKey

/-- A key of parts joined by dots, as the path that leads to its last part, and that part. -/
def key : Reader (List Text × Text) := do
  let (path, last) ← loop [] fun path => do
    gap
    let k ← simpleKey
    gap
    if ← accept ['.'] then return .inl (k :: path) else return .inr (path.reverse, k)
  if path.length < maxNesting then return (path, last) else refuse

def pair (value : Reader Value) : Reader (List Text × Text × Value) := do
  let (path, last) ← key
  expect ['=']
  gap
  return (path, last, ← value)

def items (value : Reader Value) : Reader (List Value) :=
  loop [] fun read => do
    wideGap
    if ← accept [']'] then return .inr read.reverse
    let v ← value
    wideGap
    if ← accept [','] then return .inl (v :: read)
    expect [']']
    return .inr (v :: read).reverse

def pairs (value : Reader Value) : Reader (List (List Text × Text × Value)) := do
  gap
  if ← accept ['}'] then return []
  loop [] fun read => do
    let p ← pair value
    gap
    if ← accept [','] then return .inl (p :: read)
    expect ['}']
    return .inr (p :: read).reverse

/-- A value with at most so many others around its innermost ones. -/
def value : Nat → Reader Value
  | 0 => scalar
  | depth + 1 => do
    if ← accept ['['] then return .array (← items (value depth))
    else if ← accept ['{'] then
      match Entries.ofPairs (← pairs (value depth)) with
      | some entries => return .table .inline entries
      | none => refuse
    else scalar

def header : Reader Statement := do
  expect ['[']
  if ← accept ['['] then
    let (path, last) ← key
    expect [']', ']']
    return .element (path ++ [last])
  else
    let (path, last) ← key
    expect [']']
    return .table (path ++ [last])

def statement : Reader Statement := do
  if ← sees ['['] then header
  else
    let (path, last, v) ← pair (value maxNesting)
    return .entry path last v

def nextLine (read : List Statement) : Reader (List Statement ⊕ List Statement) := do
  gap
  match ← peek with
  | none => return .inr read.reverse
  | some '#' | some '\n' | some '\r' => do
    lineRest
    return .inl read
  | some _ => do
    let s ← statement
    lineRest
    return .inl (s :: read)

def statements : Reader (List Statement) := loop [] nextLine

def parse (t : Text) : Option Entries := do
  let t := if t.head? = some '\uFEFF' then t.drop 1 else t
  Entries.ofStatements (← whole statements t)

end Regimen.Toml
