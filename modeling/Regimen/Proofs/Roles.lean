import Regimen.Proofs.Absorption
import Regimen.Proofs.FoldsKept

/-! The role of a line after formatting. It is the same as before, except that a comment outside a block
is read as a line with a block if it holds an opening mark: its slashes are spaced, and the comment mark
is lost. -/
namespace Regimen

open Text

private theorem Text.pair_prefix_of_append {a b d : Char} (ha : a ≠ d) (hb : b ≠ d) {u r : Text}
    (h : [a, b] <+: u ++ d :: r) : [a, b] <+: u := by
  match u with
  | [] => simp [ha] at h
  | [c] => simp [hb] at h
  | c :: e :: u => simpa using h

namespace Layout

private theorem slashes_apart_lead (b : Text) : ¬ commentMark <:+: trimStart isBlank (lead b) := by
  intro h
  have hlead : commentMark <:+: lead b := h.trans (List.dropWhile_suffix _).isInfix
  unfold lead at hlead
  split at hlead
  · simp [commentMark] at hlead
  · exact Slash.slashes_apart b ((pair_infix_append_right (by decide) _).1 hlead)

private theorem not_comment_lead (b r : Text) :
    ¬ commentMark <+: trimStart isBlank (lead b) ++ '{' :: r := by
  intro h
  exact slashes_apart_lead b (pair_prefix_of_append (by decide) (by decide) h).isInfix

private theorem not_comment_space (s : Text) : ¬ commentMark <+: trim (Slash.space s) := by
  intro h
  exact Slash.slashes_apart s ((pair_infix_trimBy (by decide) (by decide) _).1 h.isInfix)

private theorem trim_placeBody_of_openMark (c : Context) {s : Text} (hs : Tight isBlank s)
    (h : Block.openMark <:+: s) : ∃ b r,
      trim (placeBody c s).2.content = trimStart isBlank (lead b) ++ '{' :: r := by
  obtain ⟨l, -, r', -, hcontent, hlast⟩ := placeBody_of_openMark c hs h
  refine ⟨trim l, r', ?_⟩
  rw [hcontent]
  exact trim_lead_append (trim l) hlast

private theorem comment_placeBody (c : Context) {s : Text} (hs : Tight isBlank s) :
    commentMark <+: trim (placeBody c s).2.content ↔ commentMark <+: s ∧ ¬ Block.openMark <:+: s := by
  by_cases hopen : Block.openMark <:+: s
  · obtain ⟨b, r, hline⟩ := trim_placeBody_of_openMark c hs hopen
    rw [hline]
    simp [not_comment_lead, hopen]
  · have htrim : trim s = s := hs.trimBy_eq
    rw [placeBody_of_none c (.none hopen), ← List.isPrefixOf_iff_prefix, ← List.isPrefixOf_iff_prefix]
    by_cases hcomment : commentMark.isPrefixOf s = true
    · simp [hcomment, htrim, hopen]
    · simpa [hcomment] using not_comment_space s

private theorem comment_place (c : Context) {s : Text} (hs : Tight isMargin s) :
    commentMark <+: trimBy isMargin (place c s).2.content ↔
      commentMark <+: s ∧ (c.inBlock = true ∨ ¬ Block.openMark <:+: s) := by
  have hbody := comment_placeBody c hs.blank_of_margin
  rcases place_cases c s with h | ⟨-, hout, h⟩
  · rw [h, hs.trimBy_eq]
    refine ⟨fun hcomment => ⟨hcomment, ?_⟩, And.left⟩
    rw [or_iff_not_imp_left]
    intro hout
    obtain ⟨r, rfl⟩ := hcomment
    have hplace : place c (commentMark ++ r) = placeBody c (commentMark ++ r) := by
      rw [place_body c (s := commentMark ++ r) rfl (by decide), if_neg hout]
    rw [← hplace, h, ← trimBy_isMargin hs rfl, hs.trimBy_eq] at hbody
    exact (hbody.1 (List.prefix_append _ r)).2
  · rw [trimBy_place c hs, h, hbody]
    simp [hout]

private theorem place_eq_nil (c : Context) {s : Text} (hs : Tight isMargin s) :
    trimBy isMargin (place c s).2.content = [] ↔ s = [] := by
  rw [← List.head?_eq_none_iff, head?_place c hs, List.head?_eq_none_iff]

private theorem ofContent_place (c : Context) {s : Text} (hs : Tight isMargin s) :
    Role.ofContent (trimBy isMargin (place c s).2.content) =
      if c.inBlock = false ∧ Role.ofContent s = .comment ∧ has Block.openMark s = true then .other
      else Role.ofContent s := by
  have hcomment := comment_place c hs
  rw [← has_iff, ← List.isPrefixOf_iff_prefix, ← List.isPrefixOf_iff_prefix] at hcomment
  unfold Role.ofContent
  rw [level_place c hs]
  simp only [place_eq_nil c hs, hcomment]
  by_cases hempty : s = []
  · simp [hempty]
  by_cases hheading : 0 < Role.level s
  · simp [hempty, hheading]
  by_cases hmark : commentMark.isPrefixOf s = true
  · cases c.inBlock <;> cases has Block.openMark s <;> simp [hempty, hheading, hmark]
  · simp [hempty, hheading, hmark]

end Layout

namespace Document

def contextBefore (d : Document) (i : Nat) : Layout.Context := (Layout.placeAll {} (d.contents.take i)).1

private theorem roles_eq_contents (d : Document) (i : Nat) :
    d.lines[i]?.map Line.role = d.contents[i]?.map Role.ofContent := by
  unfold contents
  rw [List.getElem?_map, Option.map_map]
  rfl

/-- Formatting keeps the role of every line, but turns a comment that stands outside a block and holds
an opening mark into a line of text. -/
theorem roles_format (w : Nat) (t : Text) (i : Nat) :
    (ofText (Layout.format w t)).lines[i]?.map Line.role =
      (ofText t).lines[i]?.map fun l =>
        if ((ofText t).contextBefore i).inBlock = false ∧ l.role = .comment ∧
          has Block.openMark l.content = true then .other else l.role := by
  have hline : (ofText t).lines[i]?.map Line.content = (ofText t).contents[i]? := by
    unfold contents
    rw [List.getElem?_map]
  rw [roles_eq_contents, Layout.contents_format, List.getElem?_map, Layout.getElem?_placeAll, ← hline,
    Option.map_map, Option.map_map, Option.map_map]
  apply Option.map_congr
  intro l hl
  exact Layout.ofContent_place _ (tight_trimBy isMargin l.raw)

/-- A comment about a block loses its comment mark. -/
theorem comment_with_block_lost : ¬ ∀ (w : Nat) (t : Text) (i : Nat),
    (ofText (Layout.format w t)).lines[i]?.map Line.role = (ofText t).lines[i]?.map Line.role := by
  intro h
  have hfirst := h 4 "// {~ x ~}".toList 0
  revert hfirst
  decide

end Document
end Regimen
