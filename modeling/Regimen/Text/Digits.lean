import Regimen.Reader

/-! Digits in bases up to sixteen. -/
namespace Regimen

def digitValue (c : Char) : Nat :=
  if c.isDigit then c.toNat - '0'.toNat
  else if c.isUpper then c.toNat - 'A'.toNat + 10
  else c.toNat - 'a'.toNat + 10

def isHexDigit (c : Char) : Bool :=
  c.isDigit || ('a' ≤ c && c ≤ 'f') || ('A' ≤ c && c ≤ 'F')

def ofDigits (base : Nat) (digits : Text) : Nat :=
  digits.foldl (fun n c => base * n + digitValue c) 0

theorem ofDigits_toDigits (n : Nat) : ofDigits 10 (Nat.toDigits 10 n) = n := by
  have hdigit : ∀ c ∈ Nat.toDigits 10 n, digitValue c = c.toNat - '0'.toNat := by
    intro c hc
    have hd : c.isDigit = true := Nat.isDigit_of_mem_toDigits (by decide) (by decide) hc
    simp [digitValue, hd]
  have hfold : ∀ (cs : Text) (m : Nat), (∀ c ∈ cs, digitValue c = c.toNat - '0'.toNat) →
      cs.foldl (fun k c => 10 * k + digitValue c) m = Nat.ofDigitChars 10 cs m := by
    intro cs
    induction cs with
    | nil => intro m _; rfl
    | cons c cs ih =>
      intro m h
      rw [List.foldl_cons, h c (by simp), ih _ fun d hd => h d (by simp [hd])]
      rfl
  rw [ofDigits, hfold _ _ hdigit]
  exact Nat.ofDigitChars_toDigits (by decide) (by decide)

def hexDigits : Nat → Nat → Text
  | 0, _ => []
  | places + 1, n => hexDigits places (n / 16) ++ [Nat.digitChar (n % 16)]

def Reader.hex (places : Nat) : Reader Nat := do
  return ofDigits 16 (← Reader.exactly places isHexDigit)

end Regimen
