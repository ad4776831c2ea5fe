import Regimen.Uri.Host

/-! Reading addresses. -/
namespace Regimen.Uri

def webPorts : List (Text × Nat) :=
  [("http".toList, 80), ("https".toList, 443), ("ws".toList, 80), ("wss".toList, 443),
   ("ftp".toList, 21)]

/-- In the addresses of files and of hosts with a domain name a backslash is a slash. -/
def isSpecial (scheme : Text) : Bool :=
  scheme == fileScheme || webPorts.any (·.1 == scheme)

def isSeparator (scheme : Text) (c : Char) : Bool := c == '/' || (isSpecial scheme && c == '\\')

def isSuffixMark (c : Char) : Bool := c == '?' || c == '#'

def isBoundary (scheme : Text) (c : Char) : Bool := isSeparator scheme c || isSuffixMark c

def suffixOf (scheme s : Text) : Text :=
  let isBarredHere (c : Char) := isBarredInQuery c || (isSpecial scheme && c == '\x27')
  encode isBarredHere (s.takeWhile (· != '#')) ++ encode isBarredInFragment (s.dropWhile (· != '#'))

def segmentsOf (scheme path : Text) : List Text :=
  let path := if path.head?.any (isSeparator scheme) then path.tail else path
  resolve (scheme == fileScheme) [] (Text.splitWhere (isSeparator scheme) path)

def withRest (scheme : Text) (authority : Option Text) (rest : Text) : Uri :=
  let path := rest.takeWhile (!isSuffixMark ·)
  let segments := if path = [] ∧ !isSpecial scheme then [] else segmentsOf scheme path
  ⟨scheme, authority, .path segments, suffixOf scheme (rest.dropWhile (!isSuffixMark ·))⟩

/-! The authority. -/

def isBarredInUser (c : Char) : Bool := isBarredInPath c || "#?/:;=@[\\]^|".contains c

def userText (s : Text) : Text :=
  let (name, password) := (s.takeWhile (· != ':'), (s.dropWhile (· != ':')).drop 1)
  let mark (m : Char) (t : Text) : Text := if t = [] then [] else m :: encode isBarredInUser t
  let user := encode isBarredInUser name ++ mark ':' password
  if user = [] then [] else user ++ ['@']

def portText (scheme s : Text) : Except UriError Text :=
  let n := ofDigits 10 s
  if s = [] then .ok []
  else if !s.all Char.isDigit ∨ 65535 < n then .error .badPort
  else if webPorts.lookup scheme = some n then .ok []
  else .ok (':' :: (toString n).toList)

def authorityOf (scheme s : Text) : Except UriError Text := do
  let (user, place) := splitUser s
  let (host, port) := splitPort false place
  if host = [] ∧ (isSpecial scheme ∨ port.isSome ∨ user.isSome) then throw .emptyHost
  let host ← if isSpecial scheme then Host.ofDomain host else Host.ofName host
  let port ← portText scheme (port.getD [])
  return userText (user.getD []) ++ host ++ port

/-! Addresses by scheme. -/

/-- The host of a file; one named `localhost` is no host. -/
def fileHost (s : Text) : Except UriError Text :=
  if s = [] then .ok []
  else (Host.ofDomain s).map fun host => if host = localhost then [] else host

def ofFile (s : Text) : Except UriError Uri :=
  match s with
  | a :: b :: rest =>
    let host := rest.takeWhile (!isBoundary fileScheme ·)
    if !isSeparator fileScheme a ∨ !isSeparator fileScheme b then
      .ok (withRest fileScheme (some []) s)
    else if (drive? host).isSome then .ok (withRest fileScheme (some []) rest)
    else
      (fileHost host).map fun host =>
        withRest fileScheme (some host) (rest.dropWhile (!isBoundary fileScheme ·))
  | _ => .ok (withRest fileScheme (some []) s)

def ofAuthority (scheme s : Text) : Except UriError Uri :=
  (authorityOf scheme (s.takeWhile (!isBoundary scheme ·))).map fun authority =>
    withRest scheme (some authority) (s.dropWhile (!isBoundary scheme ·))

def ofScheme (scheme s : Text) : Except UriError Uri :=
  if scheme = fileScheme then ofFile s
  else if isSpecial scheme then ofAuthority scheme (s.dropWhile (isSeparator scheme))
  else
    match s with
    | '/' :: '/' :: rest => ofAuthority scheme rest
    | '/' :: _ => .ok (withRest scheme none s)
    | _ =>
      .ok ⟨scheme, none, .name (encode isBarred (s.takeWhile (!isSuffixMark ·))),
        suffixOf scheme (s.dropWhile (!isSuffixMark ·))⟩

def isSchemeChar (c : Char) : Bool := c.isAlphanum || c == '+' || c == '-' || c == '.'

/-- Controls and blanks around an address do not count, nor do tabs and line ends in it. -/
def clean (s : Text) : Text :=
  (Text.trimBy (·.toNat ≤ 0x20) s).filter fun c => c != '\t' && c != '\n' && c != '\r'

def parse (s : Text) : Except UriError Uri :=
  let s := clean s
  match s.takeWhile isSchemeChar, s.dropWhile isSchemeChar with
  | c :: scheme, ':' :: rest =>
    if c.isAlpha then ofScheme ((c :: scheme).map Char.toLower) rest else .error .relative
  | _, _ => .error .relative

end Regimen.Uri
