import Regimen.Text.Digits
import Regimen.Text.Lines

/-! The addresses of documents and folders, in a normal form in which equal addresses are equal
values. -/
namespace Regimen

inductive Route where
  /-- The segments of a path, percent-encoded. -/
  | path (segments : List Text)
  /-- What follows a scheme without a slash, as it stands. -/
  | name (text : Text)
deriving DecidableEq, Repr

instance : Hashable Route where
  hash
    | .path segments => hash (segments.map String.ofList)
    | .name text => hash (String.ofList text)

structure Uri where
  /-- In small letters. -/
  scheme : Text
  /-- User, host and port. -/
  authority : Option Text
  route : Route
  /-- The query and the fragment with their marks. -/
  suffix : Text
deriving DecidableEq, Repr

instance : Hashable Uri where
  hash u :=
    mixHash (hash (String.ofList u.scheme, u.authority.map String.ofList))
      (hash (u.route, String.ofList u.suffix))

inductive UriError where
  | relative
  | emptyHost
  | badDomain
  | badHostCharacter
  | badPort
  | badIpv4
  | badIpv6
deriving DecidableEq, Repr

def UriError.message : UriError → String
  | .relative => "relative URL without a base"
  | .emptyHost => "empty host"
  | .badDomain => "invalid international domain name"
  | .badHostCharacter => "invalid domain character"
  | .badPort => "invalid port number"
  | .badIpv4 => "invalid IPv4 address"
  | .badIpv6 => "invalid IPv6 address"

/-- A folder on the local disk, by the bytes of its path. -/
abbrev Path := List UInt8

namespace Uri

def fileScheme : Text := "file".toList

/-! Percent encoding. -/

def isBarred (c : Char) : Bool := c.toNat < 0x20 || 0x7F ≤ c.toNat

def isBarredInFragment (c : Char) : Bool :=
  isBarred c || c == ' ' || c == '\x22' || c == '<' || c == '>' || c == '\x60'

def isBarredInPath (c : Char) : Bool := isBarredInFragment c || c == '{' || c == '}'

def isBarredInQuery (c : Char) : Bool :=
  isBarred c || c == ' ' || c == '\x22' || c == '<' || c == '>'

def encodeChar (barred : Char → Bool) (c : Char) : Text :=
  if barred c then
    (String.utf8EncodeChar c).flatMap fun b => '%' :: (hexDigits 2 b.toNat).map Char.toUpper
  else [c]

def encode (barred : Char → Bool) (s : Text) : Text := s.flatMap (encodeChar barred)

def decode : Text → List UInt8
  | '%' :: a :: b :: s =>
    if isHexDigit a && isHexDigit b then .ofNat (ofDigits 16 [a, b]) :: decode s
    else .ofNat '%'.toNat :: decode (a :: b :: s)
  | c :: s => String.utf8EncodeChar c ++ decode s
  | [] => []

/-! The authority. -/

def splitUser (s : Text) : Option Text × Text :=
  let host := (s.reverse.takeWhile (· != '@')).reverse
  if s.contains '@' then (some (s.take (s.length - host.length - 1)), host) else (none, s)

def splitPort (inBrackets : Bool) : Text → Text × Option Text
  | [] => ([], none)
  | c :: s =>
    if c = ':' ∧ !inBrackets then ([], some s)
    else
      let (host, port) := splitPort (c == '[' || (inBrackets && c != ']')) s
      (c :: host, port)

def localhost : Text := "localhost".toList

/-- Whether the host is this one: it is missing, empty or named `localhost`. -/
def hasLocalHost (u : Uri) : Bool :=
  let host := u.authority.map fun a => (splitPort false (splitUser a).2).1
  host.all fun h => h == [] || h == localhost

/-! Paths. -/

/-- A drive at the end of a path is followed by a slash. -/
def closeDrive (p : Path) : Path :=
  match p.reverse.map (Char.ofNat ·.toNat) with
  | ':' :: c :: _ :: _ | '|' :: c :: _ :: _ => if c.isAlpha then p ++ ['/'.toUInt8] else p
  | _ => p

/-- The local path of an address of any scheme. -/
def path? (u : Uri) : Option Path :=
  match u.route with
  | .path (s :: rest) =>
    if u.hasLocalHost then some (closeDrive ((s :: rest).flatMap fun s => '/'.toUInt8 :: decode s))
    else none
  | _ => none

/-- The number of dots in a segment of dots only, where a dot may be percent-encoded. -/
def dots? : Text → Option Nat
  | [] => some 0
  | '.' :: s => (dots? s).map (· + 1)
  | '%' :: '2' :: 'e' :: s | '%' :: '2' :: 'E' :: s => (dots? s).map (· + 1)
  | _ => none

/-- A letter and a colon name a drive; a bar may stand for the colon. -/
def drive? : Text → Option Text
  | [c, ':'] | [c, '|'] => if c.isAlpha then some [c, ':'] else none
  | _ => none

def above (isFile : Bool) : List Text → List Text
  | [s] => if isFile && drive? s = some s then [s] else []
  | done => done.tail

/-- Resolves the segments that name their own folder or the one above it. `done` holds the segments
so far, the latest first. A path that ends in such a segment ends in a folder. -/
def resolve (isFile : Bool) (done : List Text) : List Text → List Text
  | [] => done.reverse
  | s :: rest =>
    let folder (ss : List Text) := if rest = [] then [] :: ss else ss
    match dots? s with
    | some 1 => resolve isFile (folder done) rest
    | some 2 => resolve isFile (folder (above isFile done)) rest
    | _ =>
      let s := if isFile && done = [] then (drive? s).getD s else s
      resolve isFile (encode isBarredInPath s :: done) rest

end Uri
end Regimen
