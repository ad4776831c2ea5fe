import Regimen.Text.Lines

/-! Labels of domain names in ASCII. The other characters of a label are left out of it and told behind
a hyphen, in ascending order, each by its distance from the one before. -/
namespace Regimen.Uri.Punycode

def digit (d : Nat) : Char := if d < 26 then Char.ofNat (0x61 + d) else Char.ofNat (0x30 + d - 26)

/-- The least value of the digits at a place that are not the last of their number. -/
def threshold (place bias : Nat) : Nat := max 1 (min 26 (place - bias))

def digits (bias place n : Nat) : Text :=
  let t := threshold place bias
  if n < t then [digit n]
  else digit (t + (n - t) % (36 - t)) :: digits bias (place + 36) ((n - t) / (36 - t))
termination_by n
decreasing_by
  have hpos : 0 < threshold place bias := Nat.le_max_left ..
  have hdiv := Nat.div_le_self (n - threshold place bias) (36 - threshold place bias)
  omega

def scaled (k delta : Nat) : Nat :=
  if 455 < delta then scaled (k + 36) (delta / 35) else k + 36 * delta / (delta + 38)
termination_by delta
decreasing_by exact Nat.div_lt_self (by omega) (by decide)

/-- The bias that a distance leaves for the next one. -/
def adapted (isFirst : Bool) (delta told : Nat) : Nat :=
  let delta := if isFirst then delta / 700 else delta / 2
  scaled 0 (delta + delta / told)

/-- What is told so far of a label. -/
structure State where
  out : Text := []
  delta : Nat := 0
  bias : Nat := 72
  told : Nat

def State.pass (basic n : Nat) (st : State) (c : Char) : State :=
  if c.toNat < n then { st with delta := st.delta + 1 }
  else if c.toNat = n then
    { out := st.out ++ digits st.bias 36 st.delta, delta := 0,
      bias := adapted (st.told == basic) st.delta (st.told + 1), told := st.told + 1 }
  else st

/-- Tells the code points of a list, all of them at least `n`. -/
def tell (label : Text) (basic : Nat) (st : State) (n : Nat) : List Nat → State
  | [] => st
  | m :: rest =>
    let st := label.foldl (State.pass basic m) { st with delta := st.delta + (m - n) * (st.told + 1) }
    tell label basic { st with delta := st.delta + 1 } (m + 1) rest

def encode (label : Text) : Text :=
  let basic := label.filter (·.toNat < 0x80)
  let others := ((label.map Char.toNat).filter (0x80 ≤ ·)).mergeSort.eraseDups
  let start : State := { told := basic.length }
  (if basic = [] then [] else basic ++ ['-']) ++ (tell label basic.length start 0x80 others).out

def ascii (label : Text) : Text :=
  if label.all (·.toNat < 0x80) then label else "xn--".toList ++ encode label

end Regimen.Uri.Punycode
