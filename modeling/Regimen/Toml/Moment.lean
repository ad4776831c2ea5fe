import Regimen.Text.Digits
import Regimen.Toml.Value

/-! TOML dates and times. -/
namespace Regimen.Toml
open Reader

def field (digits low high : Nat) : Reader Nat := do
  let n := ofDigits 10 (← exactly digits Char.isDigit)
  if low ≤ n && n ≤ high then return n else refuse

def daysIn (year month : Nat) : Nat :=
  if month = 2 then
    if year % 4 = 0 && (year % 100 ≠ 0 || year % 400 = 0) then 29 else 28
  else if month = 4 || month = 6 || month = 9 || month = 11 then 30
  else 31

def date : Reader Unit := do
  let year ← field 4 0 9999
  expect ['-']
  let month ← field 2 1 12
  expect ['-']
  let day ← field 2 1 31
  if day ≤ daysIn year month then pure () else refuse

/-- A time of day; a minute may have a leap second. -/
def time : Reader Unit := do
  let _ ← field 2 0 23
  expect [':']
  let _ ← field 2 0 59
  expect [':']
  let _ ← field 2 0 60
  if ← accept ['.'] then
    let _ ← span1 Char.isDigit

def offset : Reader Unit := do
  if ← acceptIf fun c => c == 'Z' || c == 'z' then pure ()
  else if ← acceptIf fun c => c == '+' || c == '-' then
    let _ ← field 2 0 23
    expect [':']
    let _ ← field 2 0 59

def startsDate (s : Text) : Bool :=
  (s.take 4).all Char.isDigit && (s.drop 4).head? = some '-'

def startsTime (s : Text) : Bool :=
  (s.take 2).all Char.isDigit && (s.drop 2).head? = some ':'

def continuesDate (s : Text) : Bool :=
  match s with
  | c :: s => (c == 'T' || c == 't' || c == ' ') && startsTime s
  | [] => false

def moment : Reader Unit := do
  if startsDate (← get) then
    date
    if continuesDate (← get) then
      let _ ← next
      time
      offset
  else time

def dateTime : Reader Value := do return .dateTime (← written moment)

end Regimen.Toml
