import Regimen.Proofs.Editing

/-! Several changes to a document in one call. An editor means them one after the other; the server keeps
the first. -/
namespace Regimen

namespace Change

/-- The text of a document after a change. A change without a span replaces what there is, if there is
anything; a span needs a text to lie in. -/
def applied? (t : Option Text) (c : Change) : Option Text :=
  match c.span with
  | none => some c.text
  | some span => t.bind (TextEdit.applied? ⟨span, c.text⟩)

def allApplied? (t : Option Text) (changes : List Change) : Option Text := changes.foldl applied? t

private theorem allApplied?_concat (t : Option Text) (changes : List Change) (c : Change) :
    allApplied? t (changes ++ [c]) = applied? (allApplied? t changes) c := by
  simp [allApplied?]

private theorem applied?_of_whole {c : Change} (h : c.span = none) (t : Option Text) :
    applied? t c = some c.text := by
  simp [applied?, h]

private theorem allApplied?_of_whole {changes : List Change} (h : ∀ c ∈ changes, c.span = none)
    (t : Option Text) : allApplied? t changes = (changes.getLast?.map Change.text).or t := by
  rcases List.eq_nil_or_concat changes with rfl | ⟨before, c, rfl⟩
  · rfl
  · rw [List.concat_eq_append] at h ⊢
    rw [allApplied?_concat, applied?_of_whole (h c (by simp))]
    simp

end Change

namespace Server

private theorem text?_changed (disk : Disk) (s : Server) (u : Uri) (changes : List Change) :
    (s.handle disk (.changed u changes)).1.text? u =
      (changes.head?.map Change.text).or (s.text? u) := by
  simp [text?_handle, Call.closes, Call.text?]

private theorem first_eq_last_iff {changes : List Change} {t : Option Text} :
    (changes.head?.map Change.text).or t = (changes.getLast?.map Change.text).or t ↔
      changes.head?.map Change.text = changes.getLast?.map Change.text := by
  cases changes with
  | nil => simp
  | cons c changes => simp [List.getLast?_cons]

/-- Changes that replace the whole text are kept as the editor means them if and only if the first one
leaves the same text as the last one. Other documents do not change. -/
theorem changes_kept_iff (run : List Arrival) (disk : Disk) (u : Uri) (changes : List Change)
    (hwhole : ∀ c ∈ changes, c.span = none) :
    let s := ({} : Server).after run
    let s' := (s.handle disk (.changed u changes)).1
    Change.allApplied? (s.text? u) changes = (changes.getLast?.map Change.text).or (s.text? u) ∧
    s'.text? u = (changes.head?.map Change.text).or (s.text? u) ∧
    (s'.text? u = Change.allApplied? (s.text? u) changes ↔
      changes.head?.map Change.text = changes.getLast?.map Change.text) ∧
    (∀ v, v ≠ u → s'.text? v = s.text? v) ∧ (changes = [] → s' = s) := by
  intro s s'
  have hmeant := Change.allApplied?_of_whole hwhole (s.text? u)
  have hstored : s'.text? u = _ := text?_changed disk s u changes
  refine ⟨hmeant, hstored, ?_, ?_, ?_⟩
  · rw [hmeant, hstored]
    exact first_eq_last_iff
  · intro v hv
    exact text?_handle_of_spares disk s (Call.spares_of_document? rfl hv.symm)
  · rintro rfl
    rfl

theorem changes_kept_there_and_back :
    let page : Uri := ⟨Uri.fileScheme, some [], .path [['a']], []⟩
    let disk : Disk := fun _ => .missing
    let s := ({} : Server).after [⟨disk, .opened page ['x']⟩]
    let changes : List Change := [⟨none, ['y']⟩, ⟨none, ['z']⟩, ⟨none, ['y']⟩]
    (s.handle disk (.changed page changes)).1.text? page =
      Change.allApplied? (s.text? page) changes := by
  intro page disk s changes
  obtain ⟨-, -, hkept, -⟩ :=
    changes_kept_iff [⟨disk, .opened page ['x']⟩] disk page changes (by simp [changes])
  exact hkept.2 rfl

/-- Of two changes that replace the text the second one is lost, and the edits of the document are
then those of a text that the editor no longer has. -/
theorem second_change_lost :
    let page : Uri := ⟨Uri.fileScheme, some [], .path [['a']], []⟩
    let disk : Disk := fun _ => .missing
    let s := ({} : Server).after [⟨disk, .opened page ['x']⟩]
    let changes : List Change := [⟨none, ['a', '/', 'b']⟩, ⟨none, ['c']⟩]
    let s' := (s.handle disk (.changed page changes)).1
    Change.allApplied? (s.text? page) changes = some ['c'] ∧
      s'.text? page = some ['a', '/', 'b'] ∧
      (s'.handle disk (.formatting page)).2 =
        .edits (some [⟨⟨⟨0, 0⟩, ⟨0, 3⟩⟩, ['a', ' ', '/', ' ', 'b']⟩]) := by
  intro page disk s changes s'
  have hstored : s'.text? page = some ['a', '/', 'b'] := by
    rw [text?_changed]
    rfl
  refine ⟨rfl, hstored, ?_⟩
  rw [answer_formatting disk rfl hstored]
  decide

end Server
end Regimen
