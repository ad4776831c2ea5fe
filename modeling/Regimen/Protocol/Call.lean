import Regimen.Json.Canonical
import Regimen.Protocol.Params
import Regimen.Server

/-! The calls that the parameters of messages make. -/
namespace Regimen

def Json.field (name : String) (decode : Json → Option α) (j : Json) : Except Mismatch α :=
  match (j.get? name).bind decode with
  | some a => .ok a
  | none => .error (.missingField name)

def Json.field? (name : String) (decode : Json → Except Mismatch α) (j : Json) :
    Except Mismatch (Option α) := (j.present? name).mapM decode

def Uri.ofJson? (j : Json) : Option Uri := do (Uri.parse (← j.text?)).toOption

def Position.ofJson (j : Json) : Except Mismatch Position := do
  return ⟨← j.field "line" Json.nat?, ← j.field "character" Json.nat?⟩

def Span.ofJson (j : Json) : Except Mismatch Span := do
  return ⟨← Position.ofJson (← j.field "start" some), ← Position.ofJson (← j.field "end" some)⟩

def Change.ofJson (j : Json) : Except Mismatch Change := do
  return ⟨← j.field? "range" Span.ofJson, ← j.field "text" Json.text?⟩

def Shape.decode (s : Shape) (decode : Json → Except Mismatch α) (j : Json) : Except Mismatch α := do
  decode (← s.read false j.canonical)

def Change.decode (j : Json) : Except Mismatch Change := Protocol.contentChange.decode ofJson j

namespace Call

def documentOf (params : Json) : Except Mismatch Uri := do
  (← params.field "textDocument" some).field "uri" Uri.ofJson?

def setupOf (params : Json) : Except Mismatch Call := do
  let folders ← params.field? "workspaceFolders" fun j => do
    (j.items?.getD []).mapM (·.field "uri" Uri.ofJson?)
  return .setup folders ((params.present? "rootUri").bind Uri.ofJson?)

def openedOf (params : Json) : Except Mismatch Call := do
  let document ← params.field "textDocument" some
  return .opened (← document.field "uri" Uri.ofJson?) (← document.field "text" Json.text?)

def changedOf (params : Json) : Except Mismatch Call := do
  let changes ← params.field "contentChanges" Json.items?
  return .changed (← documentOf params) (← changes.mapM Change.ofJson)

def savedOf (params : Json) : Except Mismatch Call := do
  return .saved (← documentOf params) ((params.get? "text").bind Json.text?)

def closedOf (params : Json) : Except Mismatch Call := do return .closed (← documentOf params)

/-- The editor's own layout options are ignored. -/
def formattingOf (params : Json) : Except Mismatch Call := do
  return .formatting (← documentOf params)

def foldingOf (params : Json) : Except Mismatch Call := do return .folding (← documentOf params)

end Call
end Regimen
