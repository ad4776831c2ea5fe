import Regimen.Frame
import Regimen.Json.Parser
import Regimen.Session

/-! The server on standard input and output. -/
namespace Regimen

/-- The length of the next frame's body; none at the end of the input. -/
partial def readLength (input : IO.FS.Stream) (found : Option Nat) : IO (Option Nat) := do
  let header ← input.getLine
  if header.isEmpty then return none
  if Frame.isEnd header then return some (found.getD 0)
  readLength input ((Frame.length? header).or found)

partial def readBytes (input : IO.FS.Stream) (count : Nat) (read : ByteArray) : IO ByteArray := do
  if count = 0 then return read
  let bytes ← input.read count.toUSize
  if bytes.isEmpty then return read
  readBytes input (count - bytes.size) (read ++ bytes)

def settingsFile? (path : Path) : Option String := do
  let folder ← String.fromUTF8? ⟨path.toArray⟩
  return folder ++ (if folder.endsWith "/" then "" else "/") ++ Settings.fileName

def readSettings (path : Path) : IO SettingsFile := do
  match settingsFile? path with
  | none => return .missing
  | some name =>
    try return .regular (← IO.FS.readBinFile name)
    catch _ => return .missing

def Message.folder? (m : Message) : Option Path :=
  match (Method.ofName m.method).call m.params with
  | .ok (.setup folders root) => workspacePath? folders root
  | _ => none

def send (output : IO.FS.Stream) (j : Json) : IO Unit := do
  output.putStr (Frame.ofJson j)
  output.flush

partial def runSession (input output : IO.FS.Stream) (s : Session) : IO Unit := do
  if s.phase = .ended then return
  let some count ← readLength input none | return
  let body ← readBytes input count ByteArray.empty
  let body := (String.fromUTF8? body).bind Json.parse
  let file ← match (body.bind Message.ofJson?).bind Message.folder? with
    | some path => readSettings path
    | none => pure .missing
  let (s, outcome) := s.receive (fun _ => file) body
  outcome.notices.forM fun n => send output n.toJson
  outcome.response.forM fun r => send output r.toJson
  runSession input output s

end Regimen

def main : IO Unit := do
  Regimen.runSession (← IO.getStdin) (← IO.getStdout) {}
