import Regimen.Toml.Moment
import Regimen.Toml.Number
import Regimen.Toml.String

/-! The TOML values that hold no other values. -/
namespace Regimen.Toml
open Reader

def truth : Reader Value := do
  if ← accept ['t', 'r', 'u', 'e'] then return .boolean true
  else
    expect ['f', 'a', 'l', 's', 'e']
    return .boolean false

/-- A value that holds no other values; its first characters tell its kind. -/
def scalar : Reader Value := do
  let s ← get
  match s.head? with
  | none => refuse
  | some c =>
    if c = quote || c = apostrophe then return .string (← string)
    else if c = 't' || c = 'f' then truth
    else if startsDate s || startsTime s then dateTime
    else number

end Regimen.Toml
