import Regimen.Proofs.Absorption
import Regimen.Proofs.Runs

/-! What an editor makes of the server's edits. The span of an edit is found in the text by counting
lines and UTF-16 units; the edits of a document turn it into its laid out form, and there they end. -/
namespace Regimen

namespace Text

/-- Cuts a text after so many UTF-16 units. There is no place within a surrogate pair or beyond the
end. -/
def cutUnits? : Nat → Text → Option (Text × Text)
  | 0, s => some ([], s)
  | _ + 1, [] => none
  | n + 1, c :: s =>
    if unitsOf c ≤ n + 1 then (cutUnits? (n + 1 - unitsOf c) s).map fun r => (c :: r.1, r.2) else none

def cutAt? (t : Text) (p : Position) : Option (Text × Text) := do
  let line ← (pieces t)[p.line]?
  let (l, r) ← cutUnits? p.character line
  return (joinLines ((pieces t).take p.line ++ [l]), joinLines (r :: (pieces t).drop (p.line + 1)))

theorem unitsOf_pos (c : Char) : 0 < unitsOf c := by
  unfold unitsOf
  split <;> omega

private theorem cutUnits?_append (l r : Text) : cutUnits? (units l) (l ++ r) = some (l, r) := by
  induction l with
  | nil => simp [cutUnits?]
  | cons c l ih =>
    obtain ⟨n, hn⟩ : ∃ n, units (c :: l) = n + 1 :=
      Nat.exists_eq_succ_of_ne_zero (Nat.ne_of_gt (Nat.add_pos_left (unitsOf_pos c) _))
    have hfits : unitsOf c ≤ n + 1 := by
      rw [← hn]
      exact Nat.le_add_right ..
    have hrest : n + 1 - unitsOf c = units l := by
      rw [← hn]
      exact Nat.add_sub_cancel_left ..
    rw [hn, List.cons_append, cutUnits?, if_pos hfits, hrest, ih]
    rfl

private theorem cutAt?_of_pieces {t l r : Text} {above below : List Text}
    (h : pieces t = above ++ (l ++ r) :: below) :
    t.cutAt? ⟨above.length, units l⟩ = some (joinLines (above ++ [l]), joinLines (r :: below)) := by
  simp [cutAt?, h, cutUnits?_append, List.drop_length_add_append]

private theorem cutAt?_start (t : Text) : t.cutAt? ⟨0, 0⟩ = some ([], t) := by
  obtain ⟨line, below, h⟩ := List.exists_cons_of_ne_nil (pieces_ne_nil t)
  have hcut := @cutAt?_of_pieces t [] line [] below h
  rw [← h, List.nil_append, joinLines_singleton, joinLines_pieces] at hcut
  exact hcut

private theorem cutAt?_endPosition {t : Text} (hlines : t.count '\n' ≤ maxIndex)
    (hunits : units (lastPiece t) ≤ maxIndex) : t.cutAt? t.endPosition = some (t, []) := by
  have hlast : (pieces t).dropLast ++ [lastPiece t] = pieces t := List.dropLast_append_getLast _
  have hpieces : pieces t = (pieces t).dropLast ++ (lastPiece t ++ []) :: [] := by
    rw [List.append_nil, hlast]
  have hlength : (pieces t).dropLast.length = t.count '\n' := by simp
  have hcut := cutAt?_of_pieces hpieces
  rw [hlast, joinLines_pieces, joinLines_singleton, hlength] at hcut
  unfold endPosition
  rwa [clampIndex_of_le hlines, clampIndex_of_le hunits]

end Text

namespace TextEdit

def applied? (e : TextEdit) (t : Text) : Option Text := do
  let (l, _) ← t.cutAt? e.span.start
  let (_, r) ← t.cutAt? e.span.stop
  return l ++ e.newText ++ r

/-- Applies edits that are listed in the order of their spans. The last one goes first, which leaves
the others where they are. -/
def allApplied? (edits : List TextEdit) (t : Text) : Option Text := edits.foldrM applied? t

private theorem applied?_fullSpan {t : Text} (hlines : t.count '\n' ≤ maxIndex)
    (hunits : Text.units (Text.lastPiece t) ≤ maxIndex) (new : Text) :
    applied? ⟨t.fullSpan, new⟩ t = some new := by
  simp [applied?, Text.fullSpan, Text.cutAt?_start, Text.cutAt?_endPosition hlines hunits]

end TextEdit

namespace Layout

private theorem length_edits_le (w : Nat) (t : Text) : (edits w t).length ≤ 1 := by
  simp only [edits]
  split <;> simp

private theorem edits_eq_nil {w : Nat} {t : Text} : edits w t = [] ↔ t = format w t := by
  simp only [edits, @eq_comm _ t]
  split <;> simp_all

private theorem allApplied?_edits (w : Nat) {t : Text} (hlines : t.count '\n' ≤ maxIndex)
    (hunits : Text.units (Text.lastPiece t) ≤ maxIndex) :
    TextEdit.allApplied? (edits w t) t = some (format w t) := by
  simp only [edits, TextEdit.allApplied?]
  split
  next h => simp [h]
  next => simp [TextEdit.applied?_fullSpan hlines hunits]

end Layout

namespace Server

theorem answer_formatting {s : Server} {u : Uri} {t : Text} (disk : Disk)
    (henabled : s.settings.format.enabled = true) (hstored : s.text? u = some t) :
    (s.handle disk (.formatting u)).2 =
      .edits (some (Layout.edits s.settings.format.indentWidth t)) := by
  simp [handle, edits?, henabled, hstored]

/-- The edits of a document lay it out, and once the editor has applied them and told the server of the
new text there are none, whatever else the server is told meanwhile. -/
theorem formatting_settles (s : Server) (disk : Disk) (u : Uri) (t : Text)
    (henabled : s.settings.format.enabled = true) (hstored : s.text? u = some t)
    (hlines : t.count '\n' ≤ maxIndex) (hunits : Text.units (Text.lastPiece t) ≤ maxIndex) :
    let laidOut := Layout.format s.settings.format.indentWidth t
    ∃ edits, (s.handle disk (.formatting u)).2 = .edits (some edits) ∧ edits.length ≤ 1 ∧
      TextEdit.allApplied? edits t = some laidOut ∧ (edits = [] ↔ t = laidOut) ∧
      ∀ (change : Change) (more : List Change) (between : List Arrival) (now later : Disk),
        change.text = laidOut →
        (∀ a ∈ between, a.call.Spares u ∧ a.call.settings? a.disk = none) →
        ((s.after (⟨now, .changed u (change :: more)⟩ :: between)).handle later (.formatting u)).2 =
          .edits (some []) := by
  intro laidOut
  refine ⟨Layout.edits s.settings.format.indentWidth t, answer_formatting disk henabled hstored,
    Layout.length_edits_le _ t, Layout.allApplied?_edits _ hlines hunits, Layout.edits_eq_nil, ?_⟩
  intro change more between now later hchange hbetween
  have hsettings : (s.after (⟨now, .changed u (change :: more)⟩ :: between)).settings = s.settings :=
    settings_after_of_unset (fun a ha => (hbetween a ha).2) _
  have htext : (s.after (⟨now, .changed u (change :: more)⟩ :: between)).text? u = some laidOut := by
    rw [after_cons, text?_after_of_spares fun a ha => (hbetween a ha).1, ← hchange]
    simp [handle]
  rw [answer_formatting later (hsettings ▸ henabled) htext, hsettings]
  exact congrArg (Answer.edits ∘ some) (Layout.edits_eq_nil.2 (Layout.format_congr _ (Layout.placeAll_format _ t)).symm)

theorem formatting_settles_pair :
    let page : Uri := ⟨Uri.fileScheme, some [], .path [['a']], []⟩
    let other : Uri := ⟨Uri.fileScheme, some [], .path [['b']], []⟩
    let text : Text := "Squat/3x5\r\n  é💪".toList
    let laidOut : Text := "Squat / 3x5\né💪".toList
    let disk : Disk := fun _ => .missing
    let s := ({} : Server).store page text
    ∃ edits, (s.handle disk (.formatting page)).2 = .edits (some edits) ∧
      TextEdit.allApplied? edits text = some laidOut ∧
      ((s.after [⟨disk, .changed page [⟨none, laidOut⟩]⟩, ⟨disk, .opened other text⟩]).handle disk
        (.formatting page)).2 = .edits (some []) := by
  intro page other text laidOut disk s
  have hformat : Layout.format s.settings.format.indentWidth text = laidOut := by decide
  obtain ⟨edits, hanswer, -, happly, -, hnext⟩ := formatting_settles s disk page text rfl
    (by simp [s]) (by decide) (by decide)
  have hspares : (Call.opened other text).Spares page := Call.spares_of_document? rfl (by decide)
  rw [hformat] at happly
  exact ⟨edits, hanswer, happly, hnext ⟨none, laidOut⟩ [] [⟨disk, .opened other text⟩] disk disk
    hformat.symm (by simpa using ⟨hspares, rfl⟩)⟩

end Server
end Regimen
