import Regimen.Text.Blank

/-! A slash is written with one space on each side, whatever blanks stood there before. -/
namespace Regimen.Slash

def spaced : Text := [' ', '/', ' ']

/-- Spaces the slashes of a text from left to right. Blanks are held back until it is known whether a
slash follows; right after a slash there is nothing to hold, and blanks are dropped. -/
def spaceFrom (held : Option Text) : Text → Text
  | [] => held.getD []
  | c :: s =>
    if c = '/' then spaced ++ spaceFrom none s
    else if isBlank c then spaceFrom (held.map (· ++ [c])) s
    else held.getD [] ++ c :: spaceFrom (some []) s

def space (s : Text) : Text := spaceFrom (some []) s

/-- Answers only if there is a slash to space. -/
def space? (s : Text) : Option Text := if '/' ∈ s then some (space s) else none

private theorem spaceFrom_of_not_mem {s held : Text} (h : '/' ∉ s) :
    spaceFrom (some held) s = held ++ s := by
  induction s generalizing held with
  | nil => simp [spaceFrom]
  | cons c s ih =>
    obtain ⟨hc, hs⟩ : c ≠ '/' ∧ '/' ∉ s := by
      simp only [List.mem_cons, not_or] at h
      exact ⟨fun e => h.1 e.symm, h.2⟩
    by_cases hb : isBlank c = true <;> simp [spaceFrom, hc, hb, ih hs]

theorem space_of_not_mem {s : Text} (h : '/' ∉ s) : space s = s :=
  spaceFrom_of_not_mem h

@[simp] theorem getD_space? (s : Text) : (space? s).getD s = space s := by
  by_cases h : '/' ∈ s <;> simp [space?, h, space_of_not_mem]

end Regimen.Slash
