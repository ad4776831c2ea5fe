/-! Texts are lists of Unicode scalar values. This module says which of them are blank and
trims the ends of a text. -/
namespace Regimen

abbrev Text := List Char

/-- The code point ranges of the Unicode property `White_Space`, both ends included. -/
def blankRanges : List (Nat × Nat) :=
  [(0x09, 0x0D), (0x20, 0x20), (0x85, 0x85), (0xA0, 0xA0), (0x1680, 0x1680),
   (0x2000, 0x200A), (0x2028, 0x2029), (0x202F, 0x202F), (0x205F, 0x205F), (0x3000, 0x3000)]

def isBlank (c : Char) : Bool :=
  blankRanges.any fun r => r.1 ≤ c.toNat && c.toNat ≤ r.2

namespace Text

def trimStart (p : Char → Bool) (s : Text) : Text := s.dropWhile p

def trimEnd (p : Char → Bool) (s : Text) : Text := (s.reverse.dropWhile p).reverse

def trimBy (p : Char → Bool) (s : Text) : Text := trimEnd p (trimStart p s)

def trim (s : Text) : Text := trimBy isBlank s

@[simp] theorem trimStart_nil (p : Char → Bool) : trimStart p [] = [] := rfl

@[simp] theorem trimEnd_nil (p : Char → Bool) : trimEnd p [] = [] := rfl

@[simp] theorem trimBy_nil (p : Char → Bool) : trimBy p [] = [] := rfl

theorem trimStart_cons (p : Char → Bool) (c : Char) (s : Text) :
    trimStart p (c :: s) = if p c then trimStart p s else c :: s := by
  simp [trimStart, List.dropWhile_cons]

theorem trimEnd_concat (p : Char → Bool) (s : Text) (c : Char) :
    trimEnd p (s ++ [c]) = if p c then trimEnd p s else s ++ [c] := by
  by_cases h : p c <;> simp [trimEnd, h]

end Text
end Regimen
