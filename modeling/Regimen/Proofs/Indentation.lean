import Regimen.Proofs.LineEnds
import Regimen.Proofs.Roles

/-! The indentation of a formatted document. The context of a line says how many units it is due, and the
width says only how many spaces make a unit. -/
namespace Regimen

open Text

namespace Layout

/-- The units of indentation that are due to a line: none for a heading of the top level and one for those
below it, two for the body below a subheading. Code stands one unit further in, and one more for each brace
that is open. -/
def Context.unitsFor (c : Context) (l : Line) : Nat :=
  let body := if c.underSubheading then 2 else 0
  match l.role with
  | .blank => 0
  | .heading level => if level = 1 then 0 else 1
  | .comment => body
  | .other =>
    if c.inBlock && !has Block.closeMark l.content then body + (c.depthOf l.content + 1) else body

private theorem units_placeBody (c : Context) (s : Text) : (placeBody c s).2.units = c.bodyUnits := by
  unfold placeBody
  split <;> rfl

private theorem units_placeCode (c : Context) {l : Line} (h : l.role.isBody = true) :
    (placeCode c l.content).2.units = if l.role = .other && !has Block.closeMark l.content then
      c.bodyUnits + (c.depthOf l.content + 1) else c.bodyUnits := by
  have hmark := isPrefixOf_of_isBody h
  cases hclose : has Block.closeMark l.content with
  | true => simp [placeCode_of_close c hclose]
  | false =>
    cases hrole : l.role with
    | blank | heading level => simp [hrole, Role.isBody] at h
    | comment =>
      rw [placeCode_of_comment c hclose (by simp [hmark, hrole])]
      simp
    | other =>
      rw [placeCode_of_code c hclose (by simp [hmark, hrole])]
      simp

private theorem units_place (c : Context) (l : Line) : (place c l.content).2.units = c.unitsFor l := by
  unfold Context.unitsFor
  cases hrole : l.role with
  | blank => rw [place_of_blank c hrole]
  | heading level =>
    have hpos := (Line.level_of_heading hrole).2
    rw [place_of_heading c hrole]
    by_cases hlevel : 2 ≤ level
    · simp [hlevel, Nat.ne_of_gt hlevel]
    · have hone : level = 1 := by omega
      simp [hone]
  | comment | other =>
    have hbody : l.role.isBody = true := by rw [hrole]; rfl
    rw [place_of_isBody c hbody]
    cases hblock : c.inBlock with
    | false => simp [units_placeBody, Context.bodyUnits]
    | true => simp [units_placeCode c hbody, hrole, Context.bodyUnits]

private theorem content_place (c : Context) {l : Line} (h : l.role.isHeading = true ∨ c.inBlock = true ∨
    l.role = .comment ∧ has Block.openMark l.content = false) :
    (place c l.content).2.content = l.content := by
  cases hrole : l.role with
  | blank =>
    rw [place_of_blank c hrole]
    exact (Role.ofContent_eq_blank.1 hrole).symm
  | heading level => rw [place_of_heading c hrole]
  | comment | other =>
    have hbody : l.role.isBody = true := by rw [hrole]; rfl
    have hmark := isPrefixOf_of_isBody hbody
    rw [place_of_isBody c hbody]
    cases hblock : c.inBlock with
    | true => exact content_placeCode c l.content
    | false =>
      have hcomment : l.role = .comment ∧ has Block.openMark l.content = false := by
        rcases h with h | h | h
        · simp [hrole, Role.isHeading] at h
        · rw [hblock] at h
          contradiction
        · exact h
      rw [if_neg Bool.false_ne_true, placeBody_of_none c (.none (has_eq_false.1 hcomment.2))]
      simp [hmark, hcomment.1]

private theorem dropReturn_render (w : Nat) (c : Context) (l : Line) :
    dropReturn ((place c l.content).2.render w) = (place c l.content).2.render w := by
  unfold dropReturn
  rw [if_neg]
  by_cases hblank : l.role = .blank
  · simp [place_of_blank c hblank, Placed.render]
  · obtain ⟨s, d, hd, hs⟩ := (ends_place c hblank).2
    intro hlast
    unfold Placed.render at hlast
    rw [hs] at hlast
    split at hlast
    · simp at hlast
    · have hreturn : d = '\r' := by simpa using hlast
      rw [hreturn] at hd
      contradiction

end Layout

namespace Document

open Layout

private theorem context_formatAll (w : Nat) (d : Document) (i : Nat) :
    (formatAll w {} (d.lines.take i)).1 = d.contextBefore i := by
  unfold contextBefore contents
  rw [formatAll_eq_placeAll, List.map_take]

theorem getElem?_format (w : Nat) (t : Text) (i : Nat) : (ofText (format w t)).lines[i]? =
    (ofText t).lines[i]?.map fun l => ⟨i, (place ((ofText t).contextBefore i) l.content).2.render w⟩ := by
  have hlines : (ofText (format w t)).lines =
      ((formatLines w (ofText t)).map dropReturn).mapIdx fun i raw => ⟨i, raw⟩ := by
    rw [← pieces_format]
    rfl
  unfold contextBefore contents
  rw [hlines, formatLines, List.getElem?_mapIdx, List.getElem?_map, List.getElem?_map, getElem?_placeAll,
    List.getElem?_map, Option.map_map, Option.map_map, Option.map_map, Option.map_map]
  apply Option.map_congr
  intro l _
  exact congrArg (Line.mk i) (dropReturn_render w _ l)

/-- The width of a unit scales the indentation of each line and has no other influence on the document. -/
theorem width_scales_indentation (t : Text) (i : Nat) (l : Line) (hl : (ofText t).lines[i]? = some l) :
    let c := (ofText t).contextBefore i
    (∀ w, (formatAll w {} ((ofText t).lines.take i)).1 = c) ∧
    ∃ content : Text,
      (∀ w, (ofText (format w t)).lines[i]? =
        some ⟨i, List.replicate (w * c.unitsFor l) ' ' ++ content⟩) ∧
      (l.role = .blank → content = []) ∧
      (l.role.isHeading = true ∨ c.inBlock = true ∨
        l.role = .comment ∧ has Block.openMark l.content = false → content = l.content) := by
  intro c
  refine ⟨fun w => context_formatAll w _ i, (place c l.content).2.content, fun w => ?_, fun h => ?_, ?_⟩
  · rw [getElem?_format, hl, ← units_place]
    rfl
  · rw [place_of_blank c h]
  · exact content_place c

theorem width_scales_indentation_closer :
    let t : Text := "## A\nSquat/3x5 \x7b~\nif (a) \x7b\nif (b) \x7b\n \x7d else \x7b".toList
    ∀ w, (ofText (format w t)).lines[4]? =
      some ⟨4, List.replicate (w * 4) ' ' ++ "\x7d else \x7b".toList⟩ := by
  intro t w
  have hcontext : (ofText t).contextBefore 4 = ⟨true, 2, true⟩ := by decide
  obtain ⟨-, content, hline, -, hkept⟩ :=
    width_scales_indentation t 4 ⟨4, " \x7d else \x7b".toList⟩ (by decide)
  rw [hkept (.inr (.inl (by rw [hcontext]))), hcontext] at hline
  exact hline w

/-- A formatted line is its indentation and its ink, with no blanks at the ends but those of a slash. -/
theorem clean_but_for_slashes (w : Nat) (t : Text) (i : Nat) (out : Line)
    (hout : (ofText (format w t)).lines[i]? = some out) :
    let c := (ofText t).contextBefore i
    ∃ l, (ofText t).lines[i]? = some l ∧
      out.raw.takeWhile isBlank =
        List.replicate (w * c.unitsFor l) ' ' ++ (if c.spacesFront l then [' '] else []) ∧
      out.raw.rtakeWhile isBlank = if c.spacesEnd l then [' '] else [] := by
  intro c
  rw [getElem?_format] at hout
  obtain ⟨l, hl, rfl⟩ := Option.map_eq_some_iff.1 hout
  refine ⟨l, hl, ?_⟩
  by_cases hblank : l.role = .blank
  · have hcontent : l.content = [] := Role.ofContent_eq_blank.1 hblank
    rw [place_of_blank _ hblank]
    simp [Placed.render, Context.unitsFor, Context.spacesFront, Context.spacesEnd, hblank, hcontent]
  · have hspace : ∀ b : Bool, Blanks (if b then [' '] else []) := by
      intro b
      cases b <;> simp
    obtain ⟨hstart, hend⟩ := ends_place c hblank
    refine ⟨?_, (hend.prepend _).rtakeWhile_eq (hspace _)⟩
    rw [← units_place]
    exact (hstart.prepend _).takeWhile_eq (by simp [blanks_replicate, hspace])

theorem clean_but_for_slashes_both :
    let t : Text := "## A\n / a/".toList
    let out : Text := "     / a / ".toList
    (ofText (format 2 t)).lines[1]? = some ⟨1, out⟩ ∧ ∃ l, (ofText t).lines[1]? = some l ∧
      out.takeWhile isBlank = List.replicate (2 * (⟨false, 0, true⟩ : Context).unitsFor l) ' ' ++
        (if (⟨false, 0, true⟩ : Context).spacesFront l then [' '] else []) ∧
      out.rtakeWhile isBlank = if (⟨false, 0, true⟩ : Context).spacesEnd l then [' '] else [] := by
  intro t out
  have hout : (ofText (format 2 t)).lines[1]? = some ⟨1, out⟩ := by decide
  exact ⟨hout, clean_but_for_slashes 2 t 1 ⟨1, out⟩ hout⟩

/-- A single slash is written with a space on either side: the line ends with a blank, and it starts with
one that is no indentation. -/
theorem slash_alone_not_clean :
    (¬ ∀ (w : Nat) (t : Text), ∀ l ∈ (ofText (format w t)).lines, ∀ x ∈ l.raw.getLast?,
      isBlank x = false) ∧
    ¬ ∀ (w : Nat) (t : Text) (i : Nat) (l l' : Line), (ofText t).lines[i]? = some l →
      (ofText (format w t)).lines[i]? = some l' → l'.isBlank = false →
      l'.raw.takeWhile isBlank =
        List.replicate (w * ((ofText t).contextBefore i).unitsFor l) ' ' := by
  constructor
  · intro h
    exact absurd (h 4 ['/'] ⟨0, [' ', '/', ' ']⟩ (by decide) ' ' rfl) (by decide)
  · intro h
    exact absurd (h 4 ['/'] 0 ⟨0, ['/']⟩ ⟨0, [' ', '/', ' ']⟩ rfl (by decide) (by decide)) (by decide)

end Document
end Regimen
