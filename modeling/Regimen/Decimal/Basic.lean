import Regimen.Text.Digits

/-! Decimal numbers with finitely many digits, and how they are written. -/
namespace Regimen

/-- Stands for `digits * 10 ^ exponent`. -/
structure Decimal where
  digits : Nat
  exponent : Int
deriving DecidableEq, Repr

namespace Decimal

def readExponent : Text → Int
  | '-' :: s => -(ofDigits 10 s : Int)
  | '+' :: s => ofDigits 10 s
  | s => ofDigits 10 s

def maxDigits : Nat := 0xFFFFFFFFFFFFFFFF

def absorb (n : Nat) : Text → Nat × Text
  | [] => (n, [])
  | c :: s =>
    if 10 * n + digitValue c ≤ maxDigits then absorb (10 * n + digitValue c) s else (n, c :: s)

/-- Reads digits, which may have a fraction and an exponent, without a sign. Digits that do not fit
count as zeros. -/
def ofText (s : Text) : Decimal :=
  let isMark (c : Char) := c == 'e' || c == 'E'
  let plain := s.takeWhile (!isMark ·)
  let fraction := (plain.dropWhile (· != '.')).drop 1
  let (n, passed) := absorb 0 (plain.takeWhile (· != '.'))
  let (n, dropped) := absorb n fraction
  let places : Int := passed.length + dropped.length - fraction.length
  ⟨n, places + readExponent ((s.dropWhile (!isMark ·)).drop 1)⟩

def zeros (n : Int) : Text := List.replicate n.toNat '0'

def trim (d : Decimal) : Decimal :=
  let count := ((Nat.toDigits 10 d.digits).reverse.takeWhile (· == '0')).length
  if d.digits = 0 then ⟨0, 0⟩ else ⟨d.digits / Nat.pow 10 count, d.exponent + count⟩

/-- Numbers from `0.00001` up to sixteen digits before the point are written out, with at least one
digit after it; others have one digit before the point, and an exponent with its sign. -/
def toText (d : Decimal) : Text :=
  let digits := Nat.toDigits 10 d.digits
  let point := digits.length + d.exponent
  if 0 ≤ d.exponent ∧ point ≤ 16 then digits ++ zeros d.exponent ++ ['.', '0']
  else if 0 < point ∧ point ≤ 16 then
    digits.take point.toNat ++ '.' :: digits.drop point.toNat
  else if -5 < point ∧ point ≤ 0 then ['0', '.'] ++ zeros (-point) ++ digits
  else
    let fraction := if digits.length = 1 then [] else '.' :: digits.drop 1
    let sign := if 0 < point then ['+'] else []
    digits.take 1 ++ fraction ++ 'e' :: sign ++ (toString (point - 1)).toList

end Decimal
end Regimen
