import Regimen.Json.Basic
import Regimen.Server

/-! The answers of the server as JSON, in the forms of the language server protocol. -/
namespace Regimen

def serverName : String := "liftoscript-lsp"

def version : String := "0.1.0"

def Position.toJson (p : Position) : Json :=
  .obj [("line", .ofNat p.line), ("character", .ofNat p.character)]

def Span.toJson (s : Span) : Json := .obj [("start", s.start.toJson), ("end", s.stop.toJson)]

def TextEdit.toJson (e : TextEdit) : Json :=
  .obj [("range", e.span.toJson), ("newText", .ofText e.newText)]

def Fold.toJson (f : Fold) : Json :=
  .obj [("startLine", .ofNat f.first), ("endLine", .ofNat f.last), ("kind", .str "region")]

/-- Documents are sent whole; a service that is not offered is left out. -/
def Capabilities.toJson (c : Capabilities) : Json :=
  let offered := [("textDocumentSync", .ofNat 1)]
    ++ (if c.formatting then [("documentFormattingProvider", .bool true)] else [])
    ++ (if c.folding then [("foldingRangeProvider", .bool true)] else [])
  .obj [("capabilities", .obj offered),
    ("serverInfo", .obj [("name", .str serverName), ("version", .str version)])]

def Answer.toJson : Answer → Json
  | .nothing => .null
  | .capabilities offered => offered.toJson
  | .edits found => .ofOption (fun es => .arr (es.map TextEdit.toJson)) found
  | .folds found => .ofOption (fun fs => .arr (fs.map Fold.toJson)) found

end Regimen
