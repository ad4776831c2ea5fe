import Regimen.Text.Blank

/-! Readers take a value from the front of a text or refuse it. -/
namespace Regimen

abbrev Reader := StateT Text Option

namespace Reader

def refuse : Reader α := fun _ => none

def peek : Reader (Option Char) := fun s => some (s.head?, s)

def next : Reader Char
  | [] => none
  | c :: s => some (c, s)

def span (p : Char → Bool) : Reader Text := fun s => some (s.takeWhile p, s.dropWhile p)

def span1 (p : Char → Bool) : Reader Text := fun s =>
  if (s.takeWhile p).isEmpty then none else some (s.takeWhile p, s.dropWhile p)

def skip (p : Char → Bool) : Reader Unit := fun s => some ((), s.dropWhile p)

def sees (pattern : Text) : Reader Bool := fun s => some (pattern.isPrefixOf s, s)

def accept (pattern : Text) : Reader Bool := fun s =>
  if pattern.isPrefixOf s then some (true, s.drop pattern.length) else some (false, s)

def acceptIf (p : Char → Bool) : Reader Bool
  | [] => some (false, [])
  | c :: s => if p c then some (true, s) else some (false, c :: s)

def expect (pattern : Text) : Reader Unit := fun s =>
  if pattern.isPrefixOf s then some ((), s.drop pattern.length) else none

def exactly (n : Nat) (p : Char → Bool) : Reader Text := fun s =>
  if (s.take n).length = n ∧ (s.take n).all p then some (s.take n, s.drop n) else none

def rounds (step : σ → Reader (σ ⊕ α)) : Text → σ → Reader α
  | [], a => do
    match ← step a with
    | .inl _ => refuse
    | .inr r => pure r
  | _ :: bound, a => do
    match ← step a with
    | .inl b => rounds step bound b
    | .inr r => pure r

/-- Repeats a step until it answers. Every step that asks for another round reads at least one
character, so the text that is left bounds the rounds. -/
def loop (start : σ) (step : σ → Reader (σ ⊕ α)) : Reader α := fun s => rounds step s start s

theorem rounds_of_inr {step : σ → Reader (σ ⊕ α)} {a : σ} {s t : Text} {r : α}
    (h : step a s = some (.inr r, t)) (bound : Text) : rounds step bound a s = some (r, t) := by
  cases bound <;> simp only [rounds, bind, StateT.bind, h, Option.bind_some] <;> rfl

theorem rounds_of_inl {step : σ → Reader (σ ⊕ α)} {a b : σ} {s t : Text}
    (h : step a s = some (.inl b, t)) (c : Char) (bound : Text) :
    rounds step (c :: bound) a s = rounds step bound b t := by
  simp [rounds, bind, StateT.bind, h]

/-- The text that a reader reads. -/
def written (r : Reader Unit) : Reader Text := do
  let s ← get
  r
  return s.take (s.length - (← get).length)

def whole (r : Reader α) (s : Text) : Option α :=
  match r s with
  | some (a, []) => some a
  | _ => none

end Reader
end Regimen
