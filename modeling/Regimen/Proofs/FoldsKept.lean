import Mathlib.Data.List.Forall2
import Regimen.Folding
import Regimen.Proofs.Placing

/-! Folding looks only at the levels of the headings and at the lines on which they stand. Formatting
keeps both, inside blocks and outside. -/
namespace Regimen

open Text

theorem Layout.level_place (c : Layout.Context) {s : Text} (hs : Tight isMargin s) :
    Role.level (trimBy isMargin (Layout.place c s).2.content) = Role.level s := by
  rcases Layout.place_cases c s with h | ⟨⟨d, hd, hne⟩, -, -⟩
  · rw [h, hs.trimBy_eq]
  · have hhead := (Layout.head?_place c hs).trans hd
    rw [Layout.level_eq_zero hhead hne, Layout.level_eq_zero hd hne]

/-- The heading on a line of which the level is known; level 0 is none. -/
def Heading.ofLevel? (p : Nat × Nat) : Option Heading := if p.1 = 0 then none else some ⟨p.2, p.1⟩

private theorem Line.heading?_eq (l : Line) :
    (l.level?.map fun level => Heading.mk l.index level) =
      Heading.ofLevel? (Role.level l.content, l.index) := by
  unfold Line.level? Heading.ofLevel?
  cases Role.level l.content <;> simp

namespace Document

/-- The levels of the lines, with 0 for those that are no headings. -/
def levels (d : Document) : List Nat := d.contents.map Role.level

private theorem levels_ofLines (raws : List Text) :
    (ofLines raws).levels = raws.map fun raw => Role.level (trimBy isMargin raw) := by
  unfold levels
  rw [contents_ofLines, List.map_map]
  rfl

theorem headings_eq_levels (t : Text) :
    (ofText t).headings = (ofText t).levels.zipIdx.filterMap Heading.ofLevel? := by
  unfold ofText
  rw [levels_ofLines, List.zipIdx_map, List.filterMap_map]
  unfold headings ofLines
  rw [List.mapIdx_eq_zipIdx_map, List.filterMap_map]
  apply congrArg (List.filterMap · _)
  funext p
  exact Line.heading?_eq ⟨p.2, p.1⟩

private theorem levels_format (w : Nat) (t : Text) :
    (ofText (Layout.format w t)).levels = (ofText t).levels := by
  have hplaced : List.Forall₂ (fun s p => Role.level s = Role.level (trimBy isMargin p.content))
      (ofText t).contents (Layout.placeAll {} (ofText t).contents).2 :=
    Layout.forall₂_placeAll (fun c s hs => (Layout.level_place c (tight_of_mem_contents hs)).symm) {}
  have hlevels : List.Forall₂ (· = ·) (ofText t).levels (ofText (Layout.format w t)).levels := by
    unfold levels
    rw [Layout.contents_format, List.map_map, List.forall₂_map_left_iff, List.forall₂_map_right_iff]
    exact hplaced
  rw [List.forall₂_eq_eq_eq] at hlevels
  exact hlevels.symm

theorem lastIndex_eq_levels (d : Document) : d.lastIndex = d.levels.length - 1 := by
  simp [lastIndex, lineCount, levels, contents]

private theorem headings_format (w : Nat) (t : Text) :
    (ofText (Layout.format w t)).headings = (ofText t).headings := by
  rw [headings_eq_levels, headings_eq_levels, levels_format]

/-- A formatted document has the same headings on the same lines, and the same folds. -/
theorem folds_format (w : Nat) (t : Text) :
    (ofText (Layout.format w t)).folds = (ofText t).folds ∧
      (ofText (Layout.format w t)).headings = (ofText t).headings := by
  refine ⟨?_, headings_format w t⟩
  unfold folds
  rw [headings_format, lastIndex_eq_levels, lastIndex_eq_levels, levels_format]

end Document
end Regimen
