import Regimen.Text.Search

/-! One line of a programme and the role that its first characters give it. -/
namespace Regimen

/-- What surrounds the content of a line and is not part of it: blanks and the byte order mark. -/
def isMargin (c : Char) : Bool := isBlank c || c == '\uFEFF'

def commentMark : Text := ['/', '/']

inductive Role where
  | blank
  | heading (level : Nat)
  | comment
  | other
deriving DecidableEq, Repr

namespace Role

def level (content : Text) : Nat := (content.takeWhile (· == '#')).length

def ofContent (content : Text) : Role :=
  if content = [] then .blank
  else if 0 < level content then .heading (level content)
  else if commentMark.isPrefixOf content then .comment
  else .other

@[simp] theorem ofContent_nil : ofContent [] = .blank := rfl

@[simp] theorem ofContent_eq_blank {s : Text} : ofContent s = .blank ↔ s = [] := by
  unfold ofContent
  split <;> simp_all
  split <;> try split
  all_goals simp

def isSubheading : Role → Bool
  | .heading level => 2 ≤ level
  | _ => false

end Role

structure Line where
  index : Nat
  raw : Text
deriving DecidableEq, Repr

namespace Line

def content (l : Line) : Text := Text.trimBy isMargin l.raw

def isBlank (l : Line) : Bool := l.content.isEmpty

def role (l : Line) : Role := Role.ofContent l.content

def level? (l : Line) : Option Nat :=
  match Role.level l.content with
  | 0 => none
  | n + 1 => some (n + 1)

end Line
end Regimen
