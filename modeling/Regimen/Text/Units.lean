import Regimen.Text.Blank

/-! The length of a text in UTF-16 code units, in which editors count columns. -/
namespace Regimen

def unitsOf (c : Char) : Nat := if c.toNat < 0x10000 then 1 else 2

namespace Text

def units : Text → Nat
  | [] => 0
  | c :: s => unitsOf c + units s

@[simp] theorem units_nil : units [] = 0 := rfl

@[simp] theorem units_append (s t : Text) : units (s ++ t) = units s + units t := by
  induction s with
  | nil => simp
  | cons c s ih => simp only [List.cons_append, units, ih]; omega

end Text
end Regimen
