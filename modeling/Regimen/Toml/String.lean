import Regimen.Text.Digits
import Regimen.Toml.Gap

/-! TOML strings: in double quotes with escapes or in single quotes without, on one line or, with three
quotes, on several. -/
namespace Regimen.Toml
open Reader

def quote : Char := '\x22'

def apostrophe : Char := '\x27'

def codePoint (digits : Nat) : Reader Char := do
  let n ← hex digits
  if n.isValidChar then pure (Char.ofNat n) else refuse

def escape : Reader Char := do
  match ← next with
  | 'b' => pure '\x08'
  | 't' => pure '\t'
  | 'n' => pure '\n'
  | 'f' => pure '\x0c'
  | 'r' => pure '\r'
  | '\x22' => pure quote
  | '\\' => pure '\\'
  | 'u' => codePoint 4
  | 'U' => codePoint 8
  | _ => refuse

def basicString : Reader Text := do
  expect [quote]
  loop [] fun read => do
    let c ← next
    if c = quote then return .inr read.reverse
    else if c = '\\' then return .inl ((← escape) :: read)
    else if isPrintable c then return .inl (c :: read)
    else refuse

def literalString : Reader Text := do
  expect [apostrophe]
  let s ← span fun c => isPrintable c && c != apostrophe
  expect [apostrophe]
  return s

/-- A run of quotes inside a multi-line string. One or two belong to the string; of a longer run the
last three close it, and at most two may stand before them. -/
def quoteRun (mark : Char) : Reader (Text × Bool) := fun s =>
  let run := s.takeWhile (· == mark)
  if run.length < 3 then some ((run, false), s.drop run.length)
  else
    let kept := min (run.length - 3) 2
    some ((run.take kept, true), s.drop (kept + 3))

/-- After a backslash at the end of a line, blanks and line ends are skipped. -/
def continuation : Reader Unit := do
  gap
  newline
  skip fun c => isGap c || c == '\n'
  loop () fun _ => do
    if ← sees ['\r'] then
      newline
      skip fun c => isGap c || c == '\n'
      return .inl ()
    else return .inr ()

def endsLine (s : Text) : Bool :=
  match s.dropWhile isGap with
  | '\n' :: _ => true
  | '\r' :: '\n' :: _ => true
  | _ => false

/-- A string in three quotes of a kind. A line end right after the opening ones does not count. -/
def multilineString (mark : Char) (escapes : Bool) : Reader Text := do
  expect [mark, mark, mark]
  if (← sees ['\n']) || (← sees ['\r', '\n']) then newline
  loop [] fun read => do
    match ← peek with
    | none => refuse
    | some c =>
      if c = mark then
        let (kept, closed) ← quoteRun mark
        let read := kept.reverse ++ read
        return if closed then .inr read.reverse else .inl read
      else if c = '\n' || c = '\r' then
        newline
        return .inl ('\n' :: read)
      else if escapes && c = '\\' then
        let _ ← next
        if endsLine (← get) then
          continuation
          return .inl read
        else return .inl ((← escape) :: read)
      else if isPrintable c then
        let c ← next
        return .inl (c :: read)
      else refuse

def string : Reader Text := do
  if ← sees [quote, quote, quote] then multilineString quote true
  else if ← sees [apostrophe, apostrophe, apostrophe] then multilineString apostrophe false
  else if ← sees [quote] then basicString
  else literalString

end Regimen.Toml
