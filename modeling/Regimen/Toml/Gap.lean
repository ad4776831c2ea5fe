import Regimen.Reader

/-! What stands between the parts of a TOML document: blanks, line ends and comments. -/
namespace Regimen.Toml
open Reader

def isGap (c : Char) : Bool := c == ' ' || c == '\t'

def gap : Reader Unit := skip isGap

def newline : Reader Unit := do
  if ← accept ['\n'] then pure () else expect ['\r', '\n']

def isPrintable (c : Char) : Bool :=
  c == '\t' || (0x20 ≤ c.toNat && c.toNat ≤ 0x7E) || 0x80 ≤ c.toNat

def comment : Reader Unit := do
  expect ['#']
  skip isPrintable

def lineEnd : Reader Unit := do
  if (← peek).isNone then pure () else newline

def lineRest : Reader Unit := do
  gap
  if ← sees ['#'] then comment
  lineEnd

def wideGap : Reader Unit :=
  loop () fun _ => do
    gap
    match ← peek with
    | some '#' => do comment; newline; return .inl ()
    | some '\n' | some '\r' => do newline; return .inl ()
    | _ => return .inr ()

end Regimen.Toml
