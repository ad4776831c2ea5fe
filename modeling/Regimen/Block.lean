import Regimen.Text.Search

/-! Code blocks stand between two marks. A line of text is divided at the first opening mark, and at
the closing mark if the block ends on the same line. -/
namespace Regimen.Block

def openMark : Text := ['{', '~']

def closeMark : Text := ['~', '}']

/-- How the marks divide a line. The parts around the block are trimmed, the block itself is kept. -/
inductive Division where
  | none
  | single (before block after : Text)
  | opening (before block : Text)
deriving DecidableEq, Repr

/-- The shortest block at the front of a text that starts with an opening mark, and what follows it.
The two marks may share their tilde. -/
def close? : Text → Option (Text × Text)
  | [] => none
  | c :: s => (Text.cut? closeMark s).map fun (inner, rest) =>
      (c :: (inner ++ closeMark), rest.drop closeMark.length)

/-- A closing mark that stands only before the opening one still keeps the block on its line. -/
def divide (s : Text) : Division :=
  match Text.cut? openMark s with
  | none => .none
  | some (before, rest) =>
    match close? rest with
    | some (block, after) => .single (Text.trim before) block (Text.trim after)
    | none =>
      if Text.has closeMark before then .single (Text.trim before) rest []
      else .opening (Text.trim before) rest

end Regimen.Block
