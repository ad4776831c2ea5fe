import Regimen.Decimal.Basic

/-! Binary numbers of 64 bits: the one that a decimal number is read as, and the shortest decimal number
that is nearest to one. -/
namespace Regimen

/-- Stands for `significand * 2 ^ exponent`. -/
structure Double where
  significand : Nat
  exponent : Int
deriving DecidableEq, Repr

namespace Double

def precision : Nat := 53

def minExponent : Int := -1074

def maxExponent : Int := 971

def roundDiv (n d : Nat) : Nat :=
  let k := n / d
  let twice := 2 * (n % d)
  if d < twice ∨ (d = twice ∧ k % 2 = 1) then k + 1 else k

def power (base : Nat) (e : Int) : Nat × Nat := (Nat.pow base e.toNat, Nat.pow base (-e).toNat)

def roundAt (numerator denominator : Nat) (e : Int) : Double :=
  let (up, down) := power 2 e
  let m := roundDiv (numerator * down) (denominator * up)
  if m = Nat.pow 2 precision then ⟨Nat.pow 2 (precision - 1), e + 1⟩ else ⟨m, e⟩

def ofQuotient (numerator denominator : Nat) : Double :=
  let e : Int := numerator.log2 - denominator.log2 - precision
  let (up, down) := power 2 e
  let e := if numerator * down / (denominator * up) < Nat.pow 2 precision then e else e + 1
  roundAt numerator denominator (max minExponent e)

def ofNat (n : Nat) : Double := ofQuotient n 1

def mul (x y : Double) : Double :=
  let (up, down) := power 2 (x.exponent + y.exponent)
  ofQuotient (x.significand * y.significand * up) down

def div (x y : Double) : Double :=
  let (up, down) := power 2 (x.exponent - y.exponent)
  ofQuotient (x.significand * up) (y.significand * down)

def maxPower : Nat := 308

def ten (k : Nat) : Double := ofNat (Nat.pow 10 k)

/-- Divides by a power of ten, in two steps if that is out of range; what two steps leave of a number
with 64 bits is zero in any case if a third one is needed. -/
def scaleDown (x : Double) (k : Nat) : Double :=
  if k ≤ maxPower then x.div (ten k)
  else (x.div (ten maxPower)).div (ten (min maxPower (k - maxPower)))

def scaleUp? (x : Double) (k : Nat) : Option Double :=
  if x.significand = 0 then some x
  else if k ≤ maxPower ∧ (x.mul (ten k)).exponent ≤ maxExponent then some (x.mul (ten k))
  else none

/-- Reads a decimal number: its digits are rounded first, then scaled by a power of ten and rounded
again, so the result may be a neighbour of the nearest number. None if that is too large. -/
def ofDecimal? (d : Decimal) : Option Double :=
  let x := ofNat d.digits
  if d.exponent < 0 then some (x.scaleDown (-d.exponent).toNat) else x.scaleUp? d.exponent.toNat

/-- Whether a quotient rounds to a number. The numbers that do reach half way to its neighbours, of
which the one below a power of two is only half as far; the ends count if the significand is even. -/
def isNearest (x : Double) (numerator denominator : Nat) : Bool :=
  let (up, down) := power 2 x.exponent
  let below := if x.significand = Nat.pow 2 (precision - 1) ∧ minExponent < x.exponent then 1 else 2
  let quarters := 4 * numerator * down
  let low := (4 * x.significand - below) * up * denominator
  let high := (4 * x.significand + 2) * up * denominator
  if x.significand % 2 = 0 then low ≤ quarters && quarters ≤ high
  else low < quarters && quarters < high

def leadingPlace (x : Double) : Int :=
  let (up, down) := power 2 x.exponent
  let n := x.significand * up
  if down ≤ n then (Nat.toDigits 10 (n / down)).length - 1
  else -(((List.range 330).find? fun k => down ≤ n * Nat.pow 10 k).getD 0 : Int)

def decimalAt? (x : Double) (place : Int) : Option Decimal :=
  let (up, down) := power 2 x.exponent
  let (tens, tenths) := power 10 place
  let n := x.significand * up * tenths
  let d := down * tens
  let k := n / d
  let leadsBack (k : Nat) := x.isNearest (k * tens) tenths
  let nearest := roundDiv n d
  if leadsBack nearest then some ⟨nearest, place⟩
  else if leadsBack k then some ⟨k, place⟩
  else if leadsBack (k + 1) then some ⟨k + 1, place⟩
  else none

/-- The decimal number with the fewest digits that rounds to a number; seventeen digits always do. -/
def shortest (x : Double) : Decimal :=
  if x.significand = 0 then ⟨0, 0⟩
  else
    let found := (List.range 17).findSome? fun n : Nat => x.decimalAt? (x.leadingPlace - n)
    (found.getD ⟨x.significand, 0⟩).trim

end Double
end Regimen
