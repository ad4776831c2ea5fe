import Regimen.Text.Digits
import Regimen.Toml.Value

/-! TOML numbers. Integers have 64 bits and a sign; floating-point numbers are checked for their range
and kept as written. -/
namespace Regimen.Toml
open Reader

/-- One or more digits of a class, in which an underscore may stand between two digits. -/
def digits (p : Char → Bool) : Reader Text := do
  let first ← span1 p
  loop first fun read => do
    if ← accept ['_'] then return .inl (read ++ (← span1 p))
    else return .inr read

def wholeDigits : Reader Text := do
  if ← accept ['0'] then return ['0'] else digits Char.isDigit

def sign : Reader Bool := do
  if ← accept ['-'] then return true
  else
    let _ ← accept ['+']
    return false

def maxInteger : Nat := 0x7FFFFFFFFFFFFFFF

def boundedInteger (negative : Bool) (n : Nat) : Reader Value :=
  if negative then
    if n ≤ maxInteger + 1 then return .integer (-n) else refuse
  else if n ≤ maxInteger then return .integer n else refuse

/-- The least value that rounds to infinity in the 64-bit binary format. -/
def floatBound : Nat := 0x3FFFFFFFFFFFFF * Nat.pow 2 970

def overflows (mantissa : Nat) : Int → Bool
  | .ofNat e => mantissa ≠ 0 && (400 < e || floatBound ≤ mantissa * Nat.pow 10 e)
  | .negSucc e =>
    let places := e + 1
    places ≤ (Nat.toDigits 10 mantissa).length && floatBound * Nat.pow 10 places ≤ mantissa

def fraction? : Reader (Option Text) := do
  if ← accept ['.'] then return some (← digits Char.isDigit) else return none

def exponent? : Reader (Option Int) := do
  if ← acceptIf fun c => c == 'e' || c == 'E' then
    let negative ← sign
    let n := ofDigits 10 (← digits Char.isDigit)
    return some (if negative then -n else n)
  else return none

/-- A number in decimal: its sign, the digits before and after the point, and the exponent. -/
structure Decimal where
  negative : Bool
  whole : Text
  fraction : Option Text
  exponent : Option Int

def decimalParts : Reader Decimal := do
  return ⟨← sign, ← wholeDigits, ← fraction?, ← exponent?⟩

def Decimal.isFloat (d : Decimal) : Bool := d.fraction.isSome || d.exponent.isSome

def Decimal.isTooLarge (d : Decimal) : Bool :=
  let places := d.fraction.getD []
  !d.negative && overflows (ofDigits 10 (d.whole ++ places)) (d.exponent.getD 0 - places.length)

def decimal : Reader Value := do
  let s ← get
  let d ← decimalParts
  if !d.isFloat then boundedInteger d.negative (ofDigits 10 d.whole)
  else if d.isTooLarge then refuse
  else return .float (s.take (s.length - (← get).length))

def based (base : Nat) (p : Char → Bool) : Reader Value := do
  let _ ← exactly 2 fun _ => true
  boundedInteger false (ofDigits base (← digits p))

def wordFloat : Reader Unit := do
  let _ ← sign
  if ← accept ['i', 'n', 'f'] then pure () else expect ['n', 'a', 'n']

def startsWord (s : Text) : Bool :=
  match s with
  | '+' :: c :: _ | '-' :: c :: _ => c.isAlpha
  | c :: _ => c.isAlpha
  | [] => false

def number : Reader Value := do
  if ← sees ['0', 'x'] then based 16 isHexDigit
  else if ← sees ['0', 'o'] then based 8 fun c => '0' ≤ c && c ≤ '7'
  else if ← sees ['0', 'b'] then based 2 fun c => c == '0' || c == '1'
  else if startsWord (← get) then return .float (← written wordFloat)
  else decimal

end Regimen.Toml
