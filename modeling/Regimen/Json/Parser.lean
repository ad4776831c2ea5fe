import Regimen.Json.Basic

/-! Reading JSON text. -/
namespace Regimen.Json
open Reader

def maxNesting : Nat := 127

def gap : Reader Unit := skip fun c => c == ' ' || c == '\t' || c == '\n' || c == '\r'

def isLeadUnit (n : Nat) : Bool := 0xD800 ≤ n && n ≤ 0xDBFF

def isTrailUnit (n : Nat) : Bool := 0xDC00 ≤ n && n ≤ 0xDFFF

/-- A character written as one UTF-16 unit or as a pair of them; a lone half of a pair is refused. -/
def unitEscape : Reader Char := do
  let n ← hex 4
  if isLeadUnit n then
    expect ['\\', 'u']
    let m ← hex 4
    if isTrailUnit m then
      return Char.ofNat (0x10000 + (n - 0xD800) * 0x400 + (m - 0xDC00))
    else refuse
  else if isTrailUnit n then refuse
  else return Char.ofNat n

def escape : Reader Char := do
  match ← next with
  | '\x22' => pure '\x22'
  | '\\' => pure '\\'
  | '/' => pure '/'
  | 'b' => pure '\x08'
  | 'f' => pure '\x0c'
  | 'n' => pure '\n'
  | 'r' => pure '\r'
  | 't' => pure '\t'
  | 'u' => unitEscape
  | _ => refuse

def string : Reader String := do
  expect ['\x22']
  loop [] fun read => do
    let c ← next
    if c = '\x22' then return .inr (String.ofList read.reverse)
    else if c = '\\' then return .inl ((← escape) :: read)
    else if c.toNat < 0x20 then refuse
    else return .inl (c :: read)

def wholePart : Reader Unit := do
  if ← accept ['0'] then pure () else let _ ← span1 Char.isDigit

def number : Reader Unit := do
  let _ ← accept ['-']
  wholePart
  if ← accept ['.'] then
    let _ ← span1 Char.isDigit
  if ← acceptIf fun c => c == 'e' || c == 'E' then
    let _ ← acceptIf fun c => c == '+' || c == '-'
    let _ ← span1 Char.isDigit

def items (value : Reader Json) : Reader (List Json) := do
  gap
  if ← accept [']'] then return []
  loop [] fun read => do
    gap
    let j ← value
    gap
    if ← accept [','] then return .inl (j :: read)
    expect [']']
    return .inr (j :: read).reverse

def fields (value : Reader Json) : Reader (List (String × Json)) := do
  gap
  if ← accept ['}'] then return []
  loop [] fun read => do
    gap
    let name ← string
    gap
    expect [':']
    gap
    let j ← value
    gap
    if ← accept [','] then return .inl ((name, j) :: read)
    expect ['}']
    return .inr ((name, j) :: read).reverse

def scalar : Reader Json := do
  match ← peek with
  | some '\x22' => return .str (← string)
  | some 't' => do expect ['t', 'r', 'u', 'e']; return .bool true
  | some 'f' => do expect ['f', 'a', 'l', 's', 'e']; return .bool false
  | some 'n' => do expect ['n', 'u', 'l', 'l']; return .null
  | _ => return .num (String.ofList (← written number))

def value : Nat → Reader Json
  | 0 => scalar
  | depth + 1 => do
    if ← accept ['['] then return .arr (← items (value depth))
    else if ← accept ['{'] then return .obj (← fields (value depth))
    else scalar

def document : Reader Json := do
  gap
  let j ← value maxNesting
  gap
  return j

def parse (s : String) : Option Json := whole document s.toList

end Regimen.Json
