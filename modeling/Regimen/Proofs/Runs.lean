import Mathlib.Data.List.Induction
import Regimen.Server

/-! The server over a run of calls. What one call does to a document and to the settings is told by the
call alone, and states that hold the same texts and settings cannot be told apart by any run. -/
namespace Regimen

structure Arrival where
  disk : Disk
  call : Call

namespace Call

/-- The text that a call carries for a document; of several changes the first one counts. -/
def text? (u : Uri) : Call → Option Text
  | .opened v t => if v = u then some t else none
  | .changed v changes => if v = u then changes.head?.map Change.text else none
  | .saved v t => if v = u then t else none
  | _ => none

def closes (u : Uri) : Call → Bool
  | .closed v => v = u
  | _ => false

/-- The call neither carries a text for the document nor closes it. -/
def Spares (u : Uri) (call : Call) : Prop := call.text? u = none ∧ call.closes u = false

def setupFolder? : Call → Option (Option Path)
  | .setup folders root => some (workspacePath? folders root)
  | _ => none

def settings? (disk : Disk) (call : Call) : Option Settings :=
  call.setupFolder?.join.map fun path => .ofWorkspace (disk path)

def document? : Call → Option Uri
  | .opened u _ | .changed u _ | .saved u _ | .closed u => some u
  | _ => none

theorem spares_of_document? {call : Call} {u v : Uri} (h : call.document? = some u) (hv : u ≠ v) :
    call.Spares v := by
  cases call with
  | opened | changed | saved | closed =>
    cases h
    simp [Spares, text?, closes, hv]
  | setup | ready | shutdown | formatting | folding => simp [document?] at h

theorem settings?_of_document? {call : Call} {u : Uri} (h : call.document? = some u) (disk : Disk) :
    call.settings? disk = none := by
  cases call with
  | setup => simp [document?] at h
  | _ => rfl

theorem closes_of_text? {call : Call} {u : Uri} {t : Text} (h : call.text? u = some t) :
    call.closes u = false := by
  cases call with
  | closed => simp [text?] at h
  | _ => rfl

end Call

theorem getLast?_filterMap_concat {α β : Type} (f : α → Option β) (l : List α) (a : α) :
    ((l ++ [a]).filterMap f).getLast? = (f a).or (l.filterMap f).getLast? := by
  cases h : f a <;> simp [h]

theorem bind_eq_ok {ε α β : Type} {x : Except ε α} {f : α → Except ε β} {b : β} :
    (x >>= f) = .ok b ↔ ∃ a, x = .ok a ∧ f a = .ok b := by
  cases x <;> simp [bind, Except.bind]

theorem mapError_eq_ok {ε δ α : Type} {x : Except ε α} {f : ε → δ} {a : α} :
    x.mapError f = .ok a ↔ x = .ok a := by
  cases x <;> simp [Except.mapError]

/-- The settings that the last setup with a local folder puts in force. -/
def latestSettings? (run : List Arrival) : Option Settings :=
  (run.filterMap fun a => a.call.settings? a.disk).getLast?

namespace Server

variable {s s' : Server}

@[simp] theorem text?_setup (disk : Disk) (s : Server) (folder : Option Path) (u : Uri) :
    (s.setup disk folder).1.text? u = s.text? u := by
  cases folder <;> rfl

theorem handle_changed (disk : Disk) (s : Server) (u : Uri) (changes : List Change) :
    s.handle disk (.changed u changes) =
      ((changes.head?.map Change.text).elim s (s.store u), .nothing) := by
  cases changes <;> rfl

theorem handle_saved (disk : Disk) (s : Server) (u : Uri) (t : Option Text) :
    s.handle disk (.saved u t) = (t.elim s (s.store u), .nothing) := by
  cases t <;> rfl

private theorem text?_elim_store (s : Server) (t : Option Text) (u v : Uri) :
    (t.elim s (s.store u)).text? v = (if u = v then t else none).or (s.text? v) := by
  cases t with
  | none => simp
  | some t => by_cases h : u = v <;> simp [h]

private theorem settings_elim_store (s : Server) (t : Option Text) (u : Uri) :
    (t.elim s (s.store u)).settings = s.settings := by
  cases t <;> rfl

theorem text?_handle (disk : Disk) (s : Server) (call : Call) (u : Uri) :
    (s.handle disk call).1.text? u =
      if call.closes u then none else (call.text? u).or (s.text? u) := by
  cases call with
  | setup | ready | shutdown | formatting | folding => simp [handle, Call.closes, Call.text?]
  | opened v t => by_cases h : v = u <;> simp [handle, Call.closes, Call.text?, h]
  | changed =>
    rw [handle_changed]
    exact text?_elim_store ..
  | saved =>
    rw [handle_saved]
    exact text?_elim_store ..
  | closed v => by_cases h : v = u <;> simp [handle, Call.closes, Call.text?, h]

theorem text?_handle_of_spares (disk : Disk) (s : Server) {call : Call} {u : Uri}
    (h : call.Spares u) : (s.handle disk call).1.text? u = s.text? u := by
  simp [text?_handle, h.1, h.2]

theorem settings_handle (disk : Disk) (s : Server) (call : Call) :
    (s.handle disk call).1.settings = (call.settings? disk).getD s.settings := by
  cases call with
  | setup folders root =>
    simp only [handle, Call.settings?, Call.setupFolder?, Option.join_some]
    cases workspacePath? folders root <;> rfl
  | changed =>
    rw [handle_changed]
    exact settings_elim_store ..
  | saved =>
    rw [handle_saved]
    exact settings_elim_store ..
  | opened | ready | shutdown | closed | formatting | folding => rfl

structure Alike (s s' : Server) : Prop where
  settings : s.settings = s'.settings
  text? : ∀ u, s.text? u = s'.text? u

theorem edits?_congr {u u' : Uri} (hs : s.settings = s'.settings) (hu : s.text? u = s'.text? u') :
    s.edits? u = s'.edits? u' := by
  unfold edits?
  rw [hs, hu]

theorem folds?_congr {u u' : Uri} (hs : s.settings = s'.settings) (hu : s.text? u = s'.text? u') :
    s.folds? u = s'.folds? u' := by
  unfold folds?
  rw [hs, hu]

theorem Alike.handle (h : Alike s s') (disk : Disk) (call : Call) :
    Alike (s.handle disk call).1 (s'.handle disk call).1 := by
  constructor
  · rw [settings_handle, settings_handle, h.settings]
  · intro u
    rw [text?_handle, text?_handle, h.text? u]

theorem Alike.answer (h : Alike s s') (disk : Disk) (call : Call) :
    (s.handle disk call).2 = (s'.handle disk call).2 := by
  cases call with
  | setup folders root =>
    simp only [Server.handle]
    cases workspacePath? folders root <;> rfl
  | formatting u => exact congrArg Answer.edits (edits?_congr h.settings (h.text? u))
  | folding u => exact congrArg Answer.folds (folds?_congr h.settings (h.text? u))
  | changed | saved => simp [handle_changed, handle_saved]
  | opened | ready | shutdown | closed => rfl

def after (s : Server) (run : List Arrival) : Server :=
  run.foldl (fun s a => (s.handle a.disk a.call).1) s

def answers (s : Server) : List Arrival → List Answer
  | [] => []
  | a :: rest => (s.handle a.disk a.call).2 :: (s.handle a.disk a.call).1.answers rest

@[simp] theorem after_nil (s : Server) : s.after [] = s := rfl

@[simp] theorem after_cons (s : Server) (a : Arrival) (rest : List Arrival) :
    s.after (a :: rest) = (s.handle a.disk a.call).1.after rest := rfl

@[simp] theorem after_append (s : Server) (run later : List Arrival) :
    s.after (run ++ later) = (s.after run).after later := List.foldl_append

theorem answers_append (s : Server) (run later : List Arrival) :
    s.answers (run ++ later) = s.answers run ++ (s.after run).answers later := by
  induction run generalizing s with
  | nil => rfl
  | cons a run ih => simp [answers, ih]

theorem Alike.answers (h : Alike s s') (run : List Arrival) : s.answers run = s'.answers run := by
  induction run generalizing s s' with
  | nil => rfl
  | cons a run ih =>
    simp only [Server.answers]
    rw [h.answer, ih (h.handle a.disk a.call)]

theorem text?_after_of_spares {u : Uri} {run : List Arrival} (h : ∀ a ∈ run, a.call.Spares u)
    (s : Server) : (s.after run).text? u = s.text? u := by
  induction run generalizing s with
  | nil => rfl
  | cons a run ih =>
    rw [after_cons, ih fun b hb => h b (by simp [hb])]
    exact text?_handle_of_spares a.disk s (h a (by simp))

theorem settings_after (s : Server) (run : List Arrival) :
    (s.after run).settings = (latestSettings? run).getD s.settings := by
  induction run using List.reverseRecOn with
  | nil => rfl
  | append_singleton run a ih =>
    unfold latestSettings? at ih ⊢
    rw [after_append, after_cons, after_nil, settings_handle, ih, getLast?_filterMap_concat]
    cases a.call.settings? a.disk <;> rfl

theorem settings_after_of_unset {run : List Arrival} (h : ∀ a ∈ run, a.call.settings? a.disk = none)
    (s : Server) : (s.after run).settings = s.settings := by
  have hnone : latestSettings? run = none := by
    simpa [latestSettings?, List.getLast?_eq_none_iff] using h
  rw [settings_after, hnone, Option.getD_none]

end Server
end Regimen
