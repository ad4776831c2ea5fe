import Regimen.Text.Hidden

/-! Texts in quotes, as messages show them: what would not show by itself is escaped. -/
namespace Regimen.Text

def escapeChar (c : Char) : Text :=
  if c = '\x22' || c = '\\' then ['\\', c]
  else if c = '\n' then ['\\', 'n']
  else if c = '\r' then ['\\', 'r']
  else if c = '\t' then ['\\', 't']
  else if c = '\x00' then ['\\', '0']
  else if isUnseen c || isJoining c then ['\\', 'u', '{'] ++ Nat.toDigits 16 c.toNat ++ ['}']
  else [c]

def quoted (s : Text) : Text := '\x22' :: s.flatMap escapeChar ++ ['\x22']

end Regimen.Text
