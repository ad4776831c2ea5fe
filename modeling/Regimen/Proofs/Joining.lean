import Regimen.Proofs.Depth
import Regimen.Proofs.FoldsKept
import Regimen.Proofs.Sections

/-! Two documents, the second below the first. If the second starts with a heading that ends every
section of the first, the folds of the whole are those of the parts. For the layout any heading will do,
as long as the first document leaves no block open. -/
namespace Regimen

open Text

def Heading.shift (n : Nat) (h : Heading) : Heading := ⟨h.line + n, h.level⟩

def Fold.shift (n : Nat) (f : Fold) : Fold := ⟨f.first + n, f.last + n⟩

namespace Heading

@[simp] theorem line_shift (n : Nat) (h : Heading) : (h.shift n).line = h.line + n := rfl

private theorem fold?_shift (n : Nat) (h : Heading) (last : Nat) :
    (h.shift n).fold? (last + n) = (h.fold? last).map (Fold.shift n) := by
  unfold fold?
  by_cases hlt : h.line < last <;> simp [hlt, Fold.shift]

private theorem fold?_shift_before (n : Nat) (g h : Heading) :
    (g.shift n).fold? ((h.shift n).line - 1) = (g.fold? (h.line - 1)).map (Fold.shift n) := by
  by_cases hzero : h.line = 0
  · have hnone : g.fold? (h.line - 1) = none := by simp [fold?, hzero]
    rw [hnone, fold?, line_shift, line_shift, if_neg (by omega)]
    rfl
  · rw [← fold?_shift, line_shift, Nat.sub_add_comm (by omega)]

private theorem filterMap_shift {n e e' : Nat}
    (h : ∀ g : Heading, (g.shift n).fold? e' = (g.fold? e).map (Fold.shift n)) (above : List Heading) :
    (above.map (shift n)).filterMap (·.fold? e') = (above.filterMap (·.fold? e)).map (Fold.shift n) := by
  rw [List.filterMap_map, List.map_filterMap]
  apply congrArg (List.filterMap · above)
  funext g
  exact h g

private theorem folds_shift (n last : Nat) (above hs : List Heading) :
    folds (last + n) (above.map (shift n)) (hs.map (shift n)) =
      (folds last above hs).map (Fold.shift n) := by
  induction hs generalizing above with
  | nil => exact filterMap_shift (fun g => fold?_shift n g last) above
  | cons h rest ih =>
    simp only [folds, List.map_cons, List.map_append, List.takeWhile_map, List.dropWhile_map]
    have hclosed := filterMap_shift (fun g => fold?_shift_before n g h)
      (above.takeWhile fun g => decide (h.level ≤ g.level))
    exact congrArg₂ (· ++ ·) hclosed (ih (h :: above.dropWhile fun g => decide (h.level ≤ g.level)))

private theorem folds_append {last : Nat} {above hs : List Heading} {h : Heading} (rest : List Heading)
    (habove : ∀ g ∈ above, h.level ≤ g.level) (hhs : ∀ g ∈ hs, h.level ≤ g.level) :
    folds last above (hs ++ h :: rest) = folds (h.line - 1) above hs ++ folds last [] (h :: rest) := by
  induction hs generalizing above with
  | nil =>
    have hall : ∀ g ∈ above, decide (h.level ≤ g.level) = true := by simpa using habove
    simp only [List.nil_append, folds, List.takeWhile_nil, List.filterMap_nil, List.dropWhile_nil]
    rw [List.takeWhile_eq_self_iff.2 hall, List.dropWhile_eq_nil_iff.2 hall]
  | cons k hs ih =>
    simp only [List.cons_append, folds, List.append_assoc]
    rw [ih ?_ fun g hg => hhs g (by simp [hg])]
    · rfl
    · intro g hg
      rcases List.mem_cons.1 hg with rfl | hg
      · exact hhs g (by simp)
      · exact habove g ((List.dropWhile_sublist _).subset hg)

end Heading

namespace Document

private theorem contents_append (s t : Text) :
    (ofText (s ++ '\n' :: t)).contents = (ofText s).contents ++ (ofText t).contents := by
  simp only [contents_ofText, pieces_append_newline, List.map_append]

private theorem levels_append (s t : Text) :
    (ofText (s ++ '\n' :: t)).levels = (ofText s).levels ++ (ofText t).levels := by
  unfold levels
  rw [contents_append, List.map_append]

private theorem length_levels (d : Document) : d.levels.length = d.lineCount := by
  simp [levels, contents, lineCount]

private theorem headings_append (s t : Text) : (ofText (s ++ '\n' :: t)).headings =
    (ofText s).headings ++ (ofText t).headings.map (Heading.shift (ofText s).lineCount) := by
  have hlater : (ofText t).levels.zipIdx (ofText s).lineCount =
      (ofText t).levels.zipIdx.map fun p => (p.1, (ofText s).lineCount + p.2) := List.zipIdx_eq_map_add
  rw [headings_eq_levels, headings_eq_levels, headings_eq_levels, levels_append, List.zipIdx_append,
    List.filterMap_append, Nat.zero_add, length_levels, hlater, List.filterMap_map, List.map_filterMap]
  congr 2
  funext p
  by_cases hlevel : p.1 = 0 <;> simp [Heading.ofLevel?, Heading.shift, hlevel, Nat.add_comm]

private theorem HeadingAt.level_pos {d : Document} {i level : Nat} (h : d.HeadingAt i level) :
    0 < level := by
  obtain ⟨l, -, hrole⟩ := h
  exact (Line.level_of_heading hrole).2

private theorem headings_of_first {t : Text} {level : Nat} (h : (ofText t).HeadingAt 0 level) :
    ∃ rest, (ofText t).headings = ⟨0, level⟩ :: rest := by
  obtain ⟨l, hl, hrole⟩ := h
  have hindex := index_of_getElem? hl
  obtain ⟨ls, hls⟩ : ∃ ls, (ofText t).lines = l :: ls := by
    rw [← List.head?_eq_getElem?] at hl
    exact ⟨_, List.eq_cons_of_mem_head? hl⟩
  unfold headings
  rw [hls, List.filterMap_cons, Line.level?_eq_some.2 hrole, hindex]
  exact ⟨_, rfl⟩

/-- Folding is local at a heading that is no deeper than any before it, as every heading of the top level
is. -/
theorem folds_join (s t : Text) {level : Nat} (ht : (ofText t).HeadingAt 0 level)
    (hs : level = 1 ∨ ∀ i m, (ofText s).HeadingAt i m → level ≤ m) :
    (ofText (s ++ '\n' :: t)).folds =
      (ofText s).folds ++ (ofText t).folds.map (Fold.shift (ofText s).lineCount) := by
  obtain ⟨rest, hrest⟩ := headings_of_first ht
  have hlevel : ∀ g ∈ (ofText s).headings, level ≤ g.level := by
    intro g hg
    have hat := mem_headings.1 hg
    rcases hs with rfl | hs
    · exact hat.level_pos
    · exact hs g.line g.level hat
  have hlast : (ofText (s ++ '\n' :: t)).lastIndex = (ofText t).lastIndex + (ofText s).lineCount := by
    simp only [lastIndex_ofText, lineCount_ofText, List.count_append, List.count_cons_self]
    omega
  unfold folds
  rw [headings_append, hlast, ← Heading.folds_shift, hrest, List.map_cons,
    Heading.folds_append _ (by simp) hlevel]
  simp [Heading.shift, lastIndex]

theorem folds_join_same_level :
    (ofText "### A\na\n## B\nb".toList).folds = [⟨0, 1⟩, ⟨2, 3⟩] ∧
    (ofText "## C\n### D\nd\n# E".toList).folds = [⟨1, 2⟩, ⟨0, 2⟩] ∧
    (ofText "### A\na\n## B\nb\n## C\n### D\nd\n# E".toList).folds =
      [⟨0, 1⟩, ⟨2, 3⟩, ⟨5, 6⟩, ⟨4, 6⟩] := by
  have hfirst : (ofText "## C\n### D\nd\n# E".toList).HeadingAt 0 2 := ⟨_, rfl, by decide⟩
  have hheadings : (ofText "### A\na\n## B\nb".toList).headings = [⟨0, 3⟩, ⟨2, 2⟩] := by decide
  have hlevel : ∀ i m, (ofText "### A\na\n## B\nb".toList).HeadingAt i m → 2 ≤ m := by
    intro i m h
    have hmem : (⟨i, m⟩ : Heading) ∈ [⟨0, 3⟩, ⟨2, 2⟩] := hheadings ▸ mem_headings.2 h
    simp only [List.mem_cons, Heading.mk.injEq, List.not_mem_nil, or_false] at hmem
    omega
  have hs : (ofText "### A\na\n## B\nb".toList).folds = [⟨0, 1⟩, ⟨2, 3⟩] := by decide
  have ht : (ofText "## C\n### D\nd\n# E".toList).folds = [⟨1, 2⟩, ⟨0, 2⟩] := by decide
  have hjoin := folds_join _ _ hfirst (.inr hlevel)
  rw [hs, ht] at hjoin
  exact ⟨hs, ht, hjoin⟩

end Document

namespace Layout

open Document

private theorem formatAll_of_heading_first (w : Nat) {c : Context} (hout : c.inBlock = false)
    (hzero : c.depth = 0) {ls : List Line}
    (hls : ∀ l ∈ ls.find? (fun l => !l.isBlank), l.role.isHeading = true) :
    (formatAll w c ls).2 = (formatAll w {} ls).2 := by
  induction ls with
  | nil => rfl
  | cons l ls ih =>
    rw [formatAll_cons, formatAll_cons]
    cases hblank : l.isBlank with
    | true =>
      have hrole : l.role = .blank := Role.ofContent_eq_blank.2 (List.isEmpty_iff.1 hblank)
      rw [formatLine_of_blank w c hrole, formatLine_of_blank w {} hrole, ih]
      simpa [hblank] using hls
    | false =>
      obtain ⟨level, hrole⟩ := Role.isHeading_iff.1 (hls l (by simp [hblank]))
      rw [formatLine_of_heading w c hrole, formatLine_of_heading w {} hrole, hout, hzero]

private theorem formatAll_join (w : Nat) (s t : Text) :
    (formatAll w {} (ofText (s ++ '\n' :: t)).lines).2 =
    (formatAll w {} (ofText s).lines).2 ++
      (formatAll w (formatAll w {} (ofText s).lines).1 (ofText t).lines).2 := by
  have hcontents : (ofText (s ++ '\n' :: t)).lines.map Line.content =
      (ofText s).lines.map Line.content ++ (ofText t).lines.map Line.content := contents_append s t
  simp only [formatAll_eq_placeAll, hcontents, placeAll_append, List.map_append]

private theorem formatAll_ne_nil (w : Nat) (t : Text) : (formatAll w {} (ofText t).lines).2 ≠ [] := by
  rw [formatAll_eq_placeAll]
  exact formatLines_ne_nil w t

/-- Formatting is local at a heading, if no block is open before it. -/
theorem format_join (w : Nat) (s t : Text)
    (hs : (formatAll w {} (ofText s).lines).1.inBlock = false)
    (ht : ∀ l ∈ (ofText t).lines.find? (fun l => !l.isBlank), l.role.isHeading = true) :
    format w (s ++ '\n' :: t) = format w s ++ '\n' :: format w t := by
  have hzero := (tracks_formatAll w (ofText s).lines).depth_eq_zero hs
  have hrest := formatAll_of_heading_first w hs hzero ht
  rw [format_eq_formatAll, format_eq_formatAll, format_eq_formatAll, formatAll_join, hrest]
  exact joinLines_append (formatAll_ne_nil w s) (formatAll_ne_nil w t)

theorem format_join_after_block :
    (formatAll 2 {} (ofText "## A\nb \x7b~\n\x7d\nif \x7b\n~\x7d".toList).lines).1 = ⟨false, 0, true⟩ ∧
    format 2 "## A\nb \x7b~\n\x7d\nif \x7b\n~\x7d\n\n # C\nd/e".toList =
      format 2 "## A\nb \x7b~\n\x7d\nif \x7b\n~\x7d".toList ++ "\n\n# C\nd / e".toList := by
  have hcontext : (formatAll 2 {} (ofText "## A\nb \x7b~\n\x7d\nif \x7b\n~\x7d".toList).lines).1 =
      ⟨false, 0, true⟩ := by decide
  have hheading : ∀ l ∈ (ofText "\n # C\nd/e".toList).lines.find? (fun l => !l.isBlank),
      l.role.isHeading = true := by decide
  have hsecond : format 2 "\n # C\nd/e".toList = "\n# C\nd / e".toList := by decide
  have hjoin := format_join 2 _ _ (congrArg Context.inBlock hcontext) hheading
  rw [hsecond] at hjoin
  exact ⟨hcontext, hjoin⟩

end Layout
end Regimen
