import Regimen.Json.Printer
import Regimen.Protocol.Answer
import Regimen.Protocol.Call

/-! The messages between an editor and the server: requests and notifications one way, responses and
notices the other. -/
namespace Regimen

inductive Method where
  | setup
  | ready
  | shutdown
  | exit
  | opened
  | changed
  | saved
  | closed
  | formatting
  | folding
  /-- A request of the protocol that this server does not serve, with the shape of its parameters. -/
  | unserved (params : Shape)
  /-- A notification of the protocol that this server does not heed. -/
  | unheeded
  /-- Takes back a request; all requests are answered at once, so there is none to take back. -/
  | cancel
  | unknown

namespace Method

def unheededNames : List String :=
  ["textDocument/willSave", "workspace/didChangeConfiguration",
   "workspace/didChangeWorkspaceFolders", "workspace/didCreateFiles",
   "workspace/didRenameFiles", "workspace/didDeleteFiles", "workspace/didChangeWatchedFiles"]

def ofName (name : String) : Method :=
  match name with
  | "initialize" => .setup
  | "initialized" => .ready
  | "shutdown" => .shutdown
  | "exit" => .exit
  | "textDocument/didOpen" => .opened
  | "textDocument/didChange" => .changed
  | "textDocument/didSave" => .saved
  | "textDocument/didClose" => .closed
  | "textDocument/formatting" => .formatting
  | "textDocument/foldingRange" => .folding
  | "$/cancelRequest" => .cancel
  | _ =>
    match Protocol.unserved.lookup name with
    | some params => .unserved params
    | none => if name ∈ unheededNames then .unheeded else .unknown

/-- Requests carry an identifier and are answered; notifications are not. -/
def isRequest : Method → Bool
  | .setup | .shutdown | .formatting | .folding | .unserved _ => true
  | _ => false

end Method

inductive Id where
  | number (n : Int)
  | name (s : String)
  | null
deriving DecidableEq, Repr

structure Message where
  id : Option Id := none
  method : String
  params : Option Json := none

inductive ParamsError where
  | absent
  | unexpected (params : Json)
  | mismatch (cause : Mismatch)

def ParamsError.message : ParamsError → String
  | .absent => "Missing params field"
  | .unexpected params => "Unexpected params: " ++ params.canonical.render
  | .mismatch cause => cause.message

def Shape.decodeParams (s : Shape) (decode : Json → Except Mismatch α) (params : Option Json) :
    Except ParamsError α :=
  match params with
  | none => .error .absent
  | some p => (s.decode decode p).mapError .mismatch

inductive Fault where
  /-- It is no JSON text. -/
  | unreadable
  | notReady
  | invalidRequest
  | unserved
  | unknownMethod (name : String)
  | params (cause : ParamsError)

namespace Fault

def code : Fault → Int
  | .unreadable => -32700
  | .notReady => -32002
  | .invalidRequest => -32600
  | .unserved => -32601
  | .unknownMethod _ => -32601
  | .params _ => -32602

def message : Fault → String
  | .unreadable => "Parse error"
  | .notReady => "Server not initialized"
  | .invalidRequest => "Invalid request"
  | .unserved => "Method not found"
  | .unknownMethod _ => "Method not found"
  | .params cause => cause.message

def toJson (f : Fault) : Json :=
  let data := match f with
    | .unknownMethod name => [("data", .str name)]
    | _ => []
  .obj ([("code", .ofInt f.code), ("message", .str f.message)] ++ data)

end Fault

structure Response where
  id : Id
  result : Except Fault Json

/-- What the server tells the editor unasked: an informational line for its log. -/
structure Notice where
  text : String
deriving DecidableEq, Repr

namespace Method

def call (m : Method) (params : Option Json) : Except Fault Call :=
  let need (shape : Shape) (decode : Json → Except Mismatch Call) : Except Fault Call :=
    (shape.decodeParams decode params).mapError .params
  match m with
  | .setup => need Protocol.setup Call.setupOf
  | .ready => need Protocol.ready fun _ => .ok .ready
  | .shutdown =>
    match params with
    | none => .ok .shutdown
    | some p => .error (.params (.unexpected p))
  | .opened => need Protocol.opened Call.openedOf
  | .changed => need Protocol.changed Call.changedOf
  | .saved => need Protocol.saved Call.savedOf
  | .closed => need Protocol.closed Call.closedOf
  | .formatting => need Protocol.formatting Call.formattingOf
  | .folding => need Protocol.foldingRange Call.foldingOf
  | .unserved shape =>
    match shape.decodeParams .ok params with
    | .ok _ => .error .unserved
    | .error cause => .error (.params cause)
  | _ => .error .unserved

end Method

/-! Messages as JSON. -/

def Id.toJson : Id → Json
  | .number n => .ofInt n
  | .name s => .str s
  | .null => .null

/-- Numbers have 64 bits with a sign. -/
def Id.ofJson? : Json → Option Id
  | .str s => some (.name s)
  | .null => some .null
  | j => do
    let n ← j.int?
    if -0x8000000000000000 ≤ n ∧ n < 0x8000000000000000 then some (.number n) else none

/-- A method that is not named is the one with the empty name. -/
def Message.ofJson? (j : Json) : Option Message := do
  let method ← ((j.get? "method").getD (.str "")).str?
  let id ← (j.get? "id").mapM Id.ofJson?
  return ⟨id, method, j.get? "params"⟩

def Response.toJson (r : Response) : Json :=
  let outcome := match r.result with
    | .ok value => ("result", value)
    | .error fault => ("error", fault.toJson)
  .obj [("jsonrpc", .str "2.0"), outcome, ("id", r.id.toJson)]

def Notice.toJson (n : Notice) : Json :=
  .obj [("jsonrpc", .str "2.0"), ("method", .str "window/logMessage"),
    ("params", .obj [("type", .ofNat 3), ("message", .str n.text)])]

end Regimen
