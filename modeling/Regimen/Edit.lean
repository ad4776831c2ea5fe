import Regimen.Folding
import Regimen.Text.Units

/-! Positions as an editor counts them: lines by line feeds, columns in UTF-16 units, both in 32 bits.
Greater counts stop at the greatest that fits. -/
namespace Regimen

def maxIndex : Nat := 0xFFFFFFFF

def clampIndex (n : Nat) : Nat := min n maxIndex

theorem clampIndex_of_le {n : Nat} (h : n ≤ maxIndex) : clampIndex n = n := Nat.min_eq_left h

structure Position where
  line : Nat
  character : Nat
deriving DecidableEq, Repr

structure Span where
  start : Position
  stop : Position
deriving DecidableEq, Repr

structure TextEdit where
  span : Span
  newText : Text
deriving DecidableEq, Repr

namespace Text

def endPosition (t : Text) : Position where
  line := clampIndex (t.count '\n')
  character := clampIndex (units (lastPiece t))

def fullSpan (t : Text) : Span := ⟨⟨0, 0⟩, t.endPosition⟩

end Text

def Fold.clamp (f : Fold) : Fold := ⟨clampIndex f.first, clampIndex f.last⟩

end Regimen
