import Regimen.Proofs.Absorption
import Regimen.Proofs.NestedCode
import Regimen.Proofs.Sections

/-! The two ends of a line that is written. Between the indentation and the ink there is nothing, and
nothing follows the ink, except for the space that goes with a slash at an end of the line. -/
namespace Regimen

namespace Text

/-- The text starts with these characters and then with ink. -/
def InkAfter (g s : Text) : Prop := ∃ c r, isBlank c = false ∧ s = g ++ c :: r

/-- The text ends with ink and then with these characters. -/
def InkBefore (g s : Text) : Prop := ∃ l c, isBlank c = false ∧ s = l ++ c :: g

theorem InkAfter.prepend {g s : Text} (h : InkAfter g s) (l : Text) : InkAfter (l ++ g) (l ++ s) := by
  obtain ⟨c, r, hc, rfl⟩ := h
  exact ⟨c, r, hc, by simp⟩

theorem InkAfter.append {g s : Text} (h : InkAfter g s) (r : Text) : InkAfter g (s ++ r) := by
  obtain ⟨c, r', hc, rfl⟩ := h
  exact ⟨c, r' ++ r, hc, by simp⟩

theorem InkBefore.prepend {g s : Text} (h : InkBefore g s) (l : Text) : InkBefore g (l ++ s) := by
  obtain ⟨l', c, hc, rfl⟩ := h
  exact ⟨l ++ l', c, hc, by simp⟩

theorem InkAfter.takeWhile_eq {g s : Text} (h : InkAfter g s) (hg : Blanks g) :
    s.takeWhile isBlank = g := by
  obtain ⟨c, r, hc, rfl⟩ := h
  rw [List.takeWhile_append_of_pos hg, List.takeWhile_cons_of_neg (by simp [hc]), List.append_nil]

theorem InkBefore.rtakeWhile_eq {g s : Text} (h : InkBefore g s) (hg : Blanks g) :
    s.rtakeWhile isBlank = g := by
  obtain ⟨l, c, hc, rfl⟩ := h
  have hreverse : (l ++ c :: g).reverse = g.reverse ++ c :: l.reverse := by simp
  have hblanks : Blanks g.reverse := fun d hd => hg d (List.mem_reverse.1 hd)
  have hlast : InkAfter g.reverse (l ++ c :: g).reverse := ⟨c, l.reverse, hc, hreverse⟩
  unfold List.rtakeWhile
  rw [hlast.takeWhile_eq hblanks, List.reverse_reverse]

private theorem inkAfter_nil {s : Text} (hne : s ≠ []) (h : ∀ c ∈ s.head?, isBlank c = false) :
    InkAfter [] s := by
  obtain ⟨c, r, rfl⟩ := List.exists_cons_of_ne_nil hne
  exact ⟨c, r, h c rfl, rfl⟩

private theorem inkBefore_nil {s : Text} (hne : s ≠ []) (h : ∀ c ∈ s.getLast?, isBlank c = false) :
    InkBefore [] s :=
  ⟨s.dropLast, s.getLast hne, h _ (List.getLast_mem_getLast? hne), (List.dropLast_append_getLast hne).symm⟩

end Text

open Text

namespace Slash

def gap (c : Option Char) : Text := if c = some '/' then [' '] else []

private theorem inkAfter_space {s : Text} (hne : s ≠ []) (h : ∀ c ∈ s.head?, isBlank c = false) :
    InkAfter (gap s.head?) (space s) := by
  obtain ⟨c, r, rfl⟩ := List.exists_cons_of_ne_nil hne
  have hc : isBlank c = false := h c rfl
  unfold space
  by_cases hs : c = '/'
  · subst hs
    exact ⟨'/', ' ' :: spaceFrom none r, hc, by rw [spaceFrom_slash]; rfl⟩
  · exact ⟨c, spaceFrom (some []) r, hc, by rw [spaceFrom_ink _ hc hs]; simp [gap, hs]⟩

private theorem inkBefore_space {s : Text} (hne : s ≠ []) (h : ∀ c ∈ s.getLast?, isBlank c = false) :
    InkBefore (gap s.getLast?) (space s) := by
  have hlast := h _ (List.getLast_mem_getLast? hne)
  obtain ⟨t, ht⟩ := spaceFrom_concat (some []) s.dropLast hlast
  rw [List.dropLast_append_getLast hne] at ht
  refine ⟨t, s.getLast hne, hlast, ht.trans ?_⟩
  simp [gap, List.getLast?_eq_getLast_of_ne_nil hne]

end Slash

namespace Layout

private theorem inkAfter_lead {l : Text} (hl : ∀ c ∈ l.head?, isBlank c = false) (r r' : Text) :
    InkAfter (Slash.gap (l ++ '{' :: r).head?) (lead (trim l) ++ '{' :: r') := by
  cases l with
  | nil => exact ⟨'{', r', by decide, by simp [lead, Slash.gap, trim]⟩
  | cons d l =>
    obtain ⟨g, hg, hdl⟩ : ∃ g, Blanks g ∧ trim (d :: l) ++ g = d :: l := exists_trimBy_append hl
    have hne : trim (d :: l) ≠ [] := by
      intro h
      rw [h, List.nil_append] at hdl
      have hd := hl d rfl
      rw [hg d (by simp [hdl])] at hd
      contradiction
    have hhead : (trim (d :: l)).head? = some d := by
      have := congrArg List.head? hdl
      rwa [List.head?_append_of_ne_nil _ hne] at this
    have hspace := Slash.inkAfter_space hne (tight_trim (d :: l)).head
    rw [hhead] at hspace
    simpa [lead, hne] using hspace.append (' ' :: '{' :: r')

private theorem inkAfter_placeBody (c : Context) {s : Text} (hs : Tight isBlank s) (hne : s ≠ []) :
    InkAfter (if commentMark.isPrefixOf s && !has Block.openMark s then [] else Slash.gap s.head?)
      (placeBody c s).2.content := by
  by_cases hopen : Block.openMark <:+: s
  · obtain ⟨l, r, r', rfl, hcontent, -⟩ := placeBody_of_openMark c hs hopen
    rw [hcontent]
    simpa [has_iff.2 hopen] using inkAfter_lead (hs.head_of_append rfl) r r'
  · rw [placeBody_of_none c (.none hopen), has_eq_false.2 hopen]
    cases commentMark.isPrefixOf s with
    | true => exact inkAfter_nil hne hs.head
    | false => exact Slash.inkAfter_space hne hs.head

private theorem inkBefore_placeBody (c : Context) {s : Text} (hs : Tight isBlank s) (hne : s ≠ []) :
    InkBefore (if commentMark.isPrefixOf s || has Block.openMark s then [] else Slash.gap s.getLast?)
      (placeBody c s).2.content := by
  by_cases hopen : Block.openMark <:+: s
  · obtain ⟨l, r, r', rfl, hcontent, hlast⟩ := placeBody_of_openMark c hs hopen
    have hink : ∀ x ∈ ('{' :: r').getLast?, isBlank x = false := by
      cases r' with
      | nil => simp; decide
      | cons d r' => simpa using hlast
    rw [hcontent]
    simpa [has_iff.2 hopen] using (inkBefore_nil (by simp) hink).prepend (lead (trim l))
  · rw [placeBody_of_none c (.none hopen), has_eq_false.2 hopen]
    cases commentMark.isPrefixOf s with
    | true => exact inkBefore_nil hne hs.last
    | false => exact Slash.inkBefore_space hne hs.last

/-- Whether a slash at the front of the line is spaced: it stands outside a block, and not in a comment
without a block. -/
def Context.spacesFront (c : Context) (l : Line) : Bool :=
  l.content.head? = some '/' && !c.inBlock && (l.role = .other || has Block.openMark l.content)

/-- Whether a slash at the end of the line is spaced: the line is text outside a block and holds none. -/
def Context.spacesEnd (c : Context) (l : Line) : Bool :=
  l.content.getLast? = some '/' && !c.inBlock && l.role = .other && !has Block.openMark l.content

private theorem head?_of_heading {l : Line} {level : Nat} (h : l.role = .heading level) :
    l.content.head? ≠ some '/' := by
  intro hhead
  have hzero : Role.level l.content = 0 := level_eq_zero hhead (by decide)
  have hlevel := Line.level_of_heading h
  omega

theorem ends_place (c : Context) {l : Line} (h : l.role ≠ .blank) :
    InkAfter (if c.spacesFront l then [' '] else []) (place c l.content).2.content ∧
      InkBefore (if c.spacesEnd l then [' '] else []) (place c l.content).2.content := by
  have hne : l.content ≠ [] := fun he => h (Role.ofContent_eq_blank.2 he)
  have htight : Tight isBlank l.content := (tight_trimBy isMargin l.raw).blank_of_margin
  have hkept := And.intro (inkAfter_nil hne htight.head) (inkBefore_nil hne htight.last)
  unfold Context.spacesFront Context.spacesEnd
  cases hrole : l.role with
  | blank => exact absurd hrole h
  | heading level =>
    rw [place_of_heading c hrole]
    simpa [head?_of_heading hrole] using hkept
  | comment | other =>
    have hbody : l.role.isBody = true := by rw [hrole]; rfl
    rw [place_of_isBody c hbody]
    cases hblock : c.inBlock with
    | true => simpa using hkept
    | false =>
      have hfront := inkAfter_placeBody c htight hne
      have hend := inkBefore_placeBody c htight hne
      rw [isPrefixOf_of_isBody hbody] at hfront hend
      cases hopen : has Block.openMark l.content <;>
        simpa [hrole, hopen, Slash.gap] using And.intro hfront hend

end Layout
end Regimen
