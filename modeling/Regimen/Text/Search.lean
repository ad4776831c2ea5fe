import Regimen.Text.Blank

/-! The first occurrence of a pattern in a text. -/
namespace Regimen.Text

/-- Cuts a text where a pattern first occurs: what stands before it, and the rest from there on. -/
def cut? (pattern : Text) : Text → Option (Text × Text)
  | [] => if pattern = [] then some ([], []) else none
  | c :: s =>
    if pattern.isPrefixOf (c :: s) then some ([], c :: s)
    else (cut? pattern s).map fun r => (c :: r.1, r.2)

def has (pattern s : Text) : Bool := (cut? pattern s).isSome

theorem append_of_cut? {pattern s a b : Text} (h : cut? pattern s = some (a, b)) :
    a ++ b = s ∧ pattern <+: b := by
  induction s generalizing a with
  | nil =>
    simp only [cut?] at h
    split at h
    · next hp => cases h; simp [hp]
    · cases h
  | cons c s ih =>
    simp only [cut?] at h
    split at h
    · next hp => cases h; exact ⟨rfl, List.isPrefixOf_iff_prefix.1 hp⟩
    · obtain ⟨⟨x, y⟩, hr, he⟩ := Option.map_eq_some_iff.1 h
      cases he
      exact ⟨congrArg (c :: ·) (ih hr).1, (ih hr).2⟩

theorem has_iff {pattern s : Text} : has pattern s = true ↔ pattern <:+: s := by
  induction s with
  | nil => by_cases h : pattern = [] <;> simp [has, cut?, h]
  | cons c s ih =>
    have hcut : has pattern (c :: s) = (pattern.isPrefixOf (c :: s) || has pattern s) := by
      by_cases h : pattern.isPrefixOf (c :: s) = true <;> simp [has, cut?, h]
    rw [hcut, Bool.or_eq_true, ih, List.isPrefixOf_iff_prefix, List.infix_cons_iff]

end Regimen.Text
