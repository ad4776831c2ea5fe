import Regimen.Text.Hidden
import Regimen.Uri.Basic
import Regimen.Uri.Punycode

/-! The hosts of addresses: names, and numbers in the two forms of the internet protocol. -/
namespace Regimen.Uri.Host

/-! Four bytes. -/

def number? (s : Text) : Option Nat :=
  let inBase (base : Nat) (isDigit : Char → Bool) (digits : Text) : Option Nat :=
    if digits.all isDigit then some (ofDigits base digits) else none
  match s with
  | [] => none
  | '0' :: 'x' :: digits | '0' :: 'X' :: digits => inBase 16 isHexDigit digits
  | '0' :: c :: digits => inBase 8 (fun d => d.isDigit && d < '8') (c :: digits)
  | digits => inBase 10 Char.isDigit digits

def parts (s : Text) : List Text :=
  let all := Text.splitWhere (· == '.') s
  if 1 < all.length ∧ all.getLast? = some [] then all.dropLast else all

/-- A host whose last part is a number has to be one as a whole. -/
def endsInNumber (s : Text) : Bool :=
  match (parts s).getLast? with
  | some last => (last != [] && last.all Char.isDigit) || (number? last).isSome
  | none => false

/-- The last part fills all bytes that the parts before it leave. -/
def ipv4? (s : Text) : Option Nat := do
  let numbers ← (parts s).mapM number?
  let last ← numbers.getLast?
  let bytes := numbers.dropLast
  if bytes.length < 4 ∧ bytes.all (· < 256) ∧ last < Nat.pow 256 (4 - bytes.length) then
    some (bytes.foldl (fun n b => 256 * n + b) 0 * Nat.pow 256 (4 - bytes.length) + last)
  else none

def ipv4Text (n : Nat) : Text :=
  let byte (place : Nat) := (toString (n / Nat.pow 256 place % 256)).toList
  byte 3 ++ '.' :: byte 2 ++ '.' :: byte 1 ++ '.' :: byte 0

/-! Eight pieces. -/

def byte? (s : Text) : Option Nat :=
  let n := ofDigits 10 s
  if s ≠ [] ∧ s.all Char.isDigit ∧ n < 256 ∧ (s.head? ≠ some '0' ∨ s.length = 1) then some n
  else none

def twoPieces? (s : Text) : Option (List Nat) := do
  match ← (Text.splitWhere (· == '.') s).mapM byte? with
  | [a, b, c, d] => some [256 * a + b, 256 * c + d]
  | _ => none

def piece? (s : Text) : Option Nat :=
  if s ≠ [] ∧ s.length ≤ 4 ∧ s.all isHexDigit then some (ofDigits 16 s) else none

def pieces? : List Text → Option (List Nat)
  | [] => some []
  | [s] => if s.contains '.' then twoPieces? s else (piece? s).map ([·])
  | s :: rest => do return (← piece? s) :: (← pieces? rest)

def splitGap? : Text → Option (Text × Text)
  | ':' :: ':' :: s => some ([], s)
  | c :: s => (splitGap? s).map fun (before, after) => (c :: before, after)
  | [] => none

def piecesOf? (s : Text) : Option (List Nat) :=
  if s = [] then some [] else pieces? (Text.splitWhere (· == ':') s)

/-- Two colons in a row stand for as many zeros as are missing. -/
def ipv6? (s : Text) : Option (List Nat) := do
  match splitGap? s with
  | some (before, after) =>
    let first ← piecesOf? before
    let last ← piecesOf? after
    if before.contains '.' ∨ 8 ≤ first.length + last.length then none
    else some (first ++ List.replicate (8 - first.length - last.length) 0 ++ last)
  | none =>
    let all ← piecesOf? s
    if all.length = 8 then some all else none

def ipv6Text (pieces : List Nat) : Text :=
  '[' :: List.intercalate [':'] (pieces.map (Nat.toDigits 16)) ++ [']']

def ipv6 (s : Text) : Except UriError Text :=
  match s.getLast? with
  | some ']' =>
    match ipv6? s.dropLast with
    | some pieces => .ok (ipv6Text pieces)
    | none => .error .badIpv6
  | _ => .error .badIpv6

/-! Names. -/

def isBarred (c : Char) : Bool :=
  "\x00\t\n\r #/:<>?@[\\]^|".contains c

def isBarredInDomain (c : Char) : Bool :=
  isBarred c || c == '%'

def ignoredRanges : List (Nat × Nat) :=
  [(0xAD, 0xAD), (0x34F, 0x34F), (0x180B, 0x180D), (0x180F, 0x180F), (0x200B, 0x200B),
   (0x2060, 0x2060), (0x2064, 0x2064), (0xFE00, 0xFE0F), (0xFEFF, 0xFEFF), (0x1BCA0, 0x1BCA3),
   (0xE0100, 0xE01EF)]

def capitalRanges : List (Nat × Nat × Nat) :=
  [(0xC0, 0xD6, 0x20), (0xD8, 0xDE, 0x20), (0x391, 0x3A1, 0x20), (0x3A3, 0x3AB, 0x20),
   (0x400, 0x40F, 0x50), (0x410, 0x42F, 0x20)]

def small (c : Char) : Char :=
  match capitalRanges.find? fun r => r.1 ≤ c.toNat && c.toNat ≤ r.2.1 with
  | some r => Char.ofNat (c.toNat + r.2.2)
  | none => c.toLower

/-- Capitals count as small letters, wide forms of ASCII characters as these, and the full stops of
other scripts as dots. -/
def domainChar (c : Char) : Text :=
  let n := c.toNat
  if ignoredRanges.any fun r => r.1 ≤ n && n ≤ r.2 then []
  else if n = 0x3002 ∨ n = 0xFF61 then ['.']
  else if 0xFF01 ≤ n ∧ n ≤ 0xFF5E then [(Char.ofNat (n - 0xFEE0)).toLower]
  else [small c]

def isDomain (s : Text) : Bool :=
  !s.any (fun c => isBarredInDomain c || isUnseen c)
    && (Text.splitWhere (· == '.') s).all fun part => !part.head?.any isJoining

def domain (s : Text) : Except UriError Text :=
  match String.fromUTF8? ⟨(decode s).toArray⟩ with
  | none => .error .badDomain
  | some name =>
    let name := name.toList.flatMap domainChar
    if !isDomain name then .error .badDomain
    else if name = [] then .error .emptyHost
    else if endsInNumber name then
      match ipv4? name with
      | some n => .ok (ipv4Text n)
      | none => .error .badIpv4
    else .ok (List.intercalate ['.'] ((Text.splitWhere (· == '.') name).map Punycode.ascii))

def ofDomain (s : Text) : Except UriError Text :=
  match s with
  | '[' :: rest => ipv6 rest
  | _ => domain s

def ofName (s : Text) : Except UriError Text :=
  match s with
  | '[' :: rest => ipv6 rest
  | _ =>
    if s.any isBarred then .error .badHostCharacter
    else .ok (encode Uri.isBarred s)

end Regimen.Uri.Host
