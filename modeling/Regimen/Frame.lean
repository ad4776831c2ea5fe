import Regimen.Json.Printer

/-! On a byte stream each message stands in a frame: header lines, one of which gives the length of the
body in bytes, an empty line, and the body. -/
namespace Regimen.Frame

def length? (header : String) : Option Nat :=
  let name := header.toList.takeWhile (· != ':')
  let value := Text.trim ((header.toList.dropWhile (· != ':')).drop 1)
  if (Text.trim name).map Char.toLower = "content-length".toList
      ∧ value ≠ [] ∧ value.all Char.isDigit then
    some (ofDigits 10 value)
  else none

def isEnd (header : String) : Bool := (Text.trim header.toList).isEmpty

def ofJson (j : Json) : String :=
  let body := j.render
  s!"Content-Length: {body.utf8ByteSize}\r\n\r\n" ++ body

end Regimen.Frame
