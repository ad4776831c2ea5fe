import Mathlib.Data.List.Forall2
import Regimen.Proofs.FoldsKept

/-! What surrounds the contents of the lines has no influence on the layout or on the folds: not how the
lines end, not how they are indented, and not a byte order mark. -/
namespace Regimen

open Text

namespace Text

private theorem isMargin_of_mem_singleton {d : Char} (h : isMargin d = true) :
    ∀ c ∈ [d], isMargin c = true := by
  intro c hc
  rwa [List.mem_singleton.1 hc]

private theorem trimBy_isMargin_append {g : Text} (hg : ∀ c ∈ g, isMargin c = true) (s : Text) :
    trimBy isMargin (g ++ s) = trimBy isMargin s := by
  simpa using @trimBy_between isMargin g [] hg (by simp) s

private theorem trimBy_isMargin_trimStart (s : Text) :
    trimBy isMargin (trimStart isBlank s) = trimBy isMargin s := by
  obtain ⟨g, hg, hs⟩ := exists_append_trimStart isBlank s
  nth_rewrite 2 [← hs]
  exact (trimBy_isMargin_append (fun c hc => isMargin_of_isBlank (hg c hc)) _).symm

/-- The second text is the first with a carriage return before some of its line feeds. -/
inductive Returned : Text → Text → Prop
  | nil : Returned [] []
  | keep {s s' : Text} (c : Char) : Returned s s' → Returned (c :: s) (c :: s')
  | add {s s' : Text} : Returned s s' → Returned ('\n' :: s) ('\r' :: '\n' :: s')

private theorem Returned.forall₂_pieces {s s' : Text} (h : Returned s s') :
    List.Forall₂ (fun l l' => l' = l ∨ l' = l ++ ['\r']) (pieces s) (pieces s') := by
  induction h with
  | nil => exact .cons (.inl rfl) .nil
  | @keep s s' c h ih =>
    by_cases hc : c = '\n'
    · rw [hc, pieces_newline_cons, pieces_newline_cons]
      exact .cons (.inl rfl) ih
    · obtain ⟨l, ls, hl⟩ := List.exists_cons_of_ne_nil (pieces_ne_nil s)
      obtain ⟨l', ls', hl'⟩ := List.exists_cons_of_ne_nil (pieces_ne_nil s')
      rw [pieces_cons hc, pieces_cons hc, hl, hl', List.modifyHead_cons, List.modifyHead_cons]
      rw [hl, hl'] at ih
      cases ih with
      | cons hfirst hrest => exact .cons (hfirst.imp (congrArg (c :: ·)) (congrArg (c :: ·))) hrest
  | @add s s' h ih =>
    rw [pieces_newline_cons, pieces_cons (by decide), pieces_newline_cons, List.modifyHead_cons]
    exact .cons (.inr rfl) ih

end Text

namespace Document

/-- One text does for the other: whatever the width, they are formatted alike, and they fold alike. -/
structure Interchangeable (t t' : Text) : Prop where
  format : ∀ w, Layout.format w t = Layout.format w t'
  folds : (ofText t).folds = (ofText t').folds

private theorem Interchangeable.of_contents {t t' : Text}
    (h : (ofText t).contents = (ofText t').contents) : Interchangeable t t' := by
  have hlevels : (ofText t).levels = (ofText t').levels := congrArg (List.map Role.level) h
  refine ⟨fun w => ?_, ?_⟩
  · rw [Layout.format_eq_contents, h, ← Layout.format_eq_contents]
  · unfold Document.folds
    rw [headings_eq_levels, headings_eq_levels, lastIndex_eq_levels, lastIndex_eq_levels, hlevels]

private theorem contents_eq_of_forall₂ {t t' : Text}
    (h : List.Forall₂ (fun l l' => trimBy isMargin l = trimBy isMargin l') (pieces t) (pieces t')) :
    (ofText t).contents = (ofText t').contents := by
  rw [contents_ofText, contents_ofText, ← List.forall₂_eq_eq_eq, List.forall₂_map_left_iff,
    List.forall₂_map_right_iff]
  exact h

private theorem contents_eq_of_returned {t t' : Text} (h : Returned t t') :
    (ofText t).contents = (ofText t').contents := by
  refine contents_eq_of_forall₂ (h.forall₂_pieces.imp ?_)
  rintro l l' (rfl | rfl)
  · rfl
  · exact (@trimBy_between isMargin [] ['\r'] (by simp) (isMargin_of_mem_singleton (by decide)) l).symm

private theorem contents_eq_of_indented {t t' : Text}
    (h : List.Forall₂ (fun l l' => trimStart isBlank l = trimStart isBlank l') (pieces t) (pieces t')) :
    (ofText t).contents = (ofText t').contents := by
  refine contents_eq_of_forall₂ (h.imp ?_)
  intro l l' hstart
  rw [← trimBy_isMargin_trimStart l, hstart, trimBy_isMargin_trimStart]

private theorem contents_cons_of_isMargin {c : Char} (h : isMargin c = true) (hc : c ≠ '\n')
    (t : Text) : (ofText (c :: t)).contents = (ofText t).contents := by
  obtain ⟨l, ls, hl⟩ := List.exists_cons_of_ne_nil (pieces_ne_nil t)
  have hfirst : trimBy isMargin (c :: l) = trimBy isMargin l :=
    trimBy_isMargin_append (isMargin_of_mem_singleton h) l
  rw [contents_ofText, contents_ofText, pieces_cons hc, hl, List.modifyHead_cons, List.map_cons,
    List.map_cons, hfirst]

/-- Texts whose lines differ only at their margins are interchangeable, as are a text and the same text
with other line ends, with other indentation or with a byte order mark at its front. -/
theorem margins_immaterial (t t' : Text) :
    (List.Forall₂ (fun l l' => trimBy isMargin l = trimBy isMargin l') (pieces t) (pieces t') →
      Interchangeable t t') ∧
    (Returned t t' → Interchangeable t t') ∧
    (List.Forall₂ (fun l l' => trimStart isBlank l = trimStart isBlank l') (pieces t) (pieces t') →
      Interchangeable t t') ∧
    Interchangeable t ('\uFEFF' :: t) := by
  refine ⟨fun h => ?_, fun h => ?_, fun h => ?_, ?_⟩
  · exact .of_contents (contents_eq_of_forall₂ h)
  · exact .of_contents (contents_eq_of_returned h)
  · exact .of_contents (contents_eq_of_indented h)
  · exact .of_contents (contents_cons_of_isMargin (by decide) (by decide) t).symm

theorem margins_immaterial_mixed : Interchangeable "# A\nb/c\n\x7b~ d\n ## E\n".toList
    "\uFEFF  # A\r\n\tb/c \r\r\n \x7b~ d\n## E\n\r".toList ∧
    Interchangeable "# A\nb\n".toList "# A\r\nb\n".toList ∧
    Interchangeable "# A\nb".toList "\t # A\n b".toList := by
  refine ⟨(margins_immaterial _ _).1 ?_, (margins_immaterial _ _).2.1 ?_,
    (margins_immaterial _ _).2.2.1 ?_⟩
  · decide
  · exact .keep _ (.keep _ (.keep _ (.add (.keep _ (.keep _ .nil)))))
  · decide

end Document
end Regimen
