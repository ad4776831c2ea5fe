import Regimen.Edit
import Regimen.Settings.File
import Regimen.Uri.Basic
import Std.Data.HashMap

/-! The server keeps the text of each open document and the settings of its workspace, and answers
with the edits and folds of a document. -/
namespace Regimen

/-- The state of the settings file in each folder. -/
abbrev Disk := Path → SettingsFile

structure Server where
  documents : Std.HashMap Uri Text := ∅
  settings : Settings := {}

/-- A change to a document: its new text, or that of the given span. -/
structure Change where
  span : Option Span := none
  text : Text
deriving DecidableEq, Repr

inductive Call where
  /-- The first call names the folders of the workspace, or in older editors its root. -/
  | setup (folders : Option (List Uri)) (root : Option Uri)
  | ready
  | shutdown
  | opened (uri : Uri) (text : Text)
  | changed (uri : Uri) (changes : List Change)
  | saved (uri : Uri) (text : Option Text)
  | closed (uri : Uri)
  | formatting (uri : Uri)
  | folding (uri : Uri)

structure Capabilities where
  formatting : Bool
  folding : Bool
deriving DecidableEq, Repr

inductive Answer where
  | nothing
  | capabilities (offered : Capabilities)
  | edits (edits : Option (List TextEdit))
  | folds (folds : Option (List Fold))
deriving DecidableEq, Repr

def Settings.capabilities (s : Settings) : Capabilities := ⟨s.format.enabled, s.folding.enabled⟩

/-- The settings of a workspace: those of its file, or the defaults if there is none to be had. -/
def Settings.ofWorkspace (file : SettingsFile) : Settings :=
  match discover file with
  | .ok (some s) => s
  | _ => {}

/-- The folder whose settings count: the first of the workspace, else its root. -/
def workspacePath? (folders : Option (List Uri)) (root : Option Uri) : Option Path :=
  ((folders.bind List.head?).or root).bind Uri.path?

def Layout.edits (width : Nat) (t : Text) : List TextEdit :=
  let laidOut := format width t
  if laidOut = t then [] else [⟨t.fullSpan, laidOut⟩]

namespace Server

def text? (s : Server) (uri : Uri) : Option Text := s.documents[uri]?

def store (s : Server) (uri : Uri) (t : Text) : Server :=
  { s with documents := s.documents.insert uri t }

def forget (s : Server) (uri : Uri) : Server := { s with documents := s.documents.erase uri }

@[simp] theorem text?_store (s : Server) (u v : Uri) (t : Text) :
    (s.store u t).text? v = if u = v then some t else s.text? v := by
  simp [text?, store, Std.HashMap.getElem?_insert]

@[simp] theorem text?_forget (s : Server) (u v : Uri) :
    (s.forget u).text? v = if u = v then none else s.text? v := by
  simp [text?, forget, Std.HashMap.getElem?_erase]

/-- The settings that a setup finds. Without a local folder the server keeps the settings it has and
offers what the defaults offer. -/
def setup (disk : Disk) (s : Server) (folder : Option Path) : Server × Capabilities :=
  match folder with
  | none => (s, ({} : Settings).capabilities)
  | some path =>
    let settings := Settings.ofWorkspace (disk path)
    ({ s with settings }, settings.capabilities)

def edits? (s : Server) (uri : Uri) : Option (List TextEdit) :=
  if s.settings.format.enabled then
    (s.text? uri).map (Layout.edits s.settings.format.indentWidth)
  else none

def folds? (s : Server) (uri : Uri) : Option (List Fold) :=
  if s.settings.folding.enabled then
    (s.text? uri).map fun t => (Document.ofText t).folds.map Fold.clamp
  else none

/-- Carries out one call. Of several changes to a document the first one counts. -/
def handle (disk : Disk) (s : Server) : Call → Server × Answer
  | .setup folders root =>
    let (s, offered) := s.setup disk (workspacePath? folders root)
    (s, .capabilities offered)
  | .ready | .shutdown => (s, .nothing)
  | .opened uri t => (s.store uri t, .nothing)
  | .changed uri (change :: _) => (s.store uri change.text, .nothing)
  | .changed _ [] => (s, .nothing)
  | .saved uri (some t) => (s.store uri t, .nothing)
  | .saved _ none => (s, .nothing)
  | .closed uri => (s.forget uri, .nothing)
  | .formatting uri => (s, .edits (s.edits? uri))
  | .folding uri => (s, .folds (s.folds? uri))

end Server
end Regimen
