import Regimen.Message

/-! A session passes the messages of an editor on to the server, in the phase that each of them needs,
and answers every request. -/
namespace Regimen

inductive Phase where
  | fresh
  | running
  | closing
  | ended
deriving DecidableEq, Repr

/-- What goes back to the editor for one message. -/
structure Outcome where
  response : Option Response := none
  notices : List Notice := []

structure Session where
  phase : Phase := .fresh
  server : Server := {}

def Call.notices : Call → List Notice
  | .ready => [⟨"Liftoscript language server ready"⟩]
  | _ => []

def Outcome.isSuccess (o : Outcome) : Bool :=
  match o.response with
  | some ⟨_, .ok _⟩ => true
  | _ => false

namespace Message

def refuse (m : Message) (f : Fault) : Outcome where
  response := m.id.map (⟨·, .error f⟩)

end Message

namespace Session

/-- Passes a message on to the server. A request without identifier is dropped, and a notification
that has one is refused. -/
def serve (disk : Disk) (s : Session) (method : Method) (m : Message) : Session × Outcome :=
  if m.id.isSome = method.isRequest then
    match method.call m.params with
    | .error f => (s, m.refuse f)
    | .ok call =>
      let (server, answer) := s.server.handle disk call
      ({ s with server }, ⟨m.id.map (⟨·, .ok answer.toJson⟩), call.notices⟩)
  else (s, m.refuse .invalidRequest)

/-- The first setup that succeeds starts the session. -/
def start (disk : Disk) (s : Session) (m : Message) : Session × Outcome :=
  let (s, outcome) := s.serve disk .setup m
  (if outcome.isSuccess then { s with phase := .running } else s, outcome)

def handle (disk : Disk) (s : Session) (m : Message) : Session × Outcome :=
  match Method.ofName m.method, s.phase with
  | _, .ended => (s, {})
  | .exit, _ => ({ s with phase := .ended }, {})
  | .unknown, _ =>
    (s, if "$/".toList.isPrefixOf m.method.toList then {} else m.refuse (.unknownMethod m.method))
  | .cancel, _ => (s, m.refuse .invalidRequest)
  | .setup, .fresh => s.start disk m
  | .setup, _ => (s, m.refuse .invalidRequest)
  | _, .fresh => (s, m.refuse .notReady)
  | _, .closing => (s, m.refuse .invalidRequest)
  | .shutdown, .running => { s with phase := .closing }.serve disk .shutdown m
  | method, .running => s.serve disk method m

/-- Handles what arrives in one frame. If that is no message, nobody in particular is told. -/
def receive (disk : Disk) (s : Session) (body : Option Json) : Session × Outcome :=
  match body, body.bind Message.ofJson? with
  | _, some m => s.handle disk m
  | some _, none => (s, { response := some ⟨.null, .error .invalidRequest⟩ })
  | none, none => (s, { response := some ⟨.null, .error .unreadable⟩ })

end Session
end Regimen
