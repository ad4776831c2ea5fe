import Mathlib.Data.List.Forall2
import Regimen.Proofs.Placing

/-! Formatting moves blanks and nothing else. The ink of every line stays what it is, gaps in it stay
gaps, and new ones open only next to slashes and around a block. -/
namespace Regimen

open Text

/-- The second text is the first with other blanks. Seams of equal rank lie between the same two
characters of the ink. -/
structure OnlyRespaced (s out : Text) : Prop where
  ink_eq : ink out = ink s
  matched : ∀ a : Seam s, ∃ b : Seam out, b.rank = a.rank
  kept : ∀ (a : Seam s) (b : Seam out), b.rank = a.rank → a.gap ≠ [] → b.gap ≠ []
  opened : ∀ (a : Seam s) (b : Seam out), b.rank = a.rank → a.gap = [] → b.gap ≠ [] →
    a.first = '/' ∨ a.second = '/' ∨ FirstAt Block.openMark a.left a.right ∨
      Block.ClosedBefore a.left a.right

private theorem OnlyRespaced.of_respaced {s out g : Text} (h : Respaced Layout.MayOpen [] s (out ++ g))
    (hg : Blanks g) : OnlyRespaced s out := by
  have hink : ink out = ink s := by
    have := h.ink_eq
    rw [ink_append, ink_eq_nil.2 hg, List.append_nil] at this
    exact this.symm
  have hseam : ∀ (a : Seam s) (b : Seam out), b.rank = a.rank →
      GapKept Layout.MayOpen a.left a.gap b.gap a.right := by
    intro a b hr
    exact h.seam a (b.extend g) hr.symm
  refine ⟨hink, ?_, fun a b hr => (hseam a b hr).wide, ?_⟩
  · intro a
    exact Seam.exists_of_rank (hink ▸ a.rank_lt)
  · intro a b hr hgap hgap'
    rcases (hseam a b hr).narrow hgap hgap' with (hl | hr) | hopen
    · exact .inl (by simpa [Seam.left] using hl)
    · exact .inr (.inl (by simpa [Seam.right] using hr))
    · exact .inr (.inr hopen)

private theorem onlyRespaced_render (w : Nat) (c : Layout.Context) {s : Text} (hs : Tight isMargin s) :
    OnlyRespaced s (dropReturn ((Layout.place c s).2.render w)) := by
  obtain ⟨g, hreturn, hline⟩ := exists_dropReturn_append ((Layout.place c s).2.render w)
  apply OnlyRespaced.of_respaced _ hreturn
  rw [hline]
  exact (Layout.respaced_place c hs).indent (blanks_replicate _)

namespace Document

/-- Line by line, a formatted document is the document with other blanks. -/
theorem format_only_respaces (w : Nat) (t : Text) :
    (ofText (Layout.format w t)).lineCount = (ofText t).lineCount ∧
      List.Forall₂ (fun l l' : Line => OnlyRespaced l.content l'.raw)
        (ofText t).lines (ofText (Layout.format w t)).lines := by
  have hplaced : List.Forall₂ (fun s p => OnlyRespaced s (dropReturn (p.render w)))
      (ofText t).contents (Layout.placeAll {} (ofText t).contents).2 :=
    Layout.forall₂_placeAll (fun c s hs => onlyRespaced_render w c (tight_of_mem_contents hs)) {}
  have hraws : (ofText (Layout.format w t)).lines.map Line.raw =
      (Layout.placeAll {} (ofText t).contents).2.map fun p => dropReturn (p.render w) := by
    unfold ofText
    rw [raws_ofLines, Layout.pieces_format]
    unfold Layout.formatLines
    rw [List.map_map]
    rfl
  have hlines : List.Forall₂ (fun l l' : Line => OnlyRespaced l.content l'.raw)
      (ofText t).lines (ofText (Layout.format w t)).lines := by
    rw [← List.forall₂_map_right_iff, hraws, List.forall₂_map_right_iff]
    exact List.forall₂_map_left_iff.1 hplaced
  exact ⟨hlines.length_eq.symm, hlines⟩

end Document
end Regimen
