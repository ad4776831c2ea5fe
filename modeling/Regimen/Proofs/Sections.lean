import Mathlib.Order.Bounds.Defs
import Regimen.Folding

/-! The folds of a document are its sections, told line by line: a section ends before the next heading
that is no deeper than its own, or with the document. The headings that are still open when a line is
reached form a stack, in which lines and levels grow towards the innermost. -/
namespace Regimen

/-- By the line on which a section ends; of sections that end together, the inner one first. -/
def Fold.ClosesBefore (a b : Fold) : Prop := a.last < b.last ∨ a.last = b.last ∧ b.first < a.first

namespace Heading

/-- Line `e` is the last one of the section of `g`, in a document with the headings `hs`. -/
def EndsAt (last : Nat) (hs : List Heading) (g : Heading) (e : Nat) : Prop :=
  (∃ h ∈ hs, g.line < h.line ∧ h.level ≤ g.level ∧
    (∀ k ∈ hs, g.line < k.line → k.level ≤ g.level → h.line ≤ k.line) ∧ e = h.line - 1) ∨
  ((∀ k ∈ hs, g.line < k.line → g.level < k.level) ∧ e = last)

private theorem endsAt_nil {last : Nat} {g : Heading} {e : Nat} : EndsAt last [] g e ↔ e = last := by
  simp [EndsAt]

private theorem endsAt_cons_of_closes {last : Nat} {h : Heading} {rest : List Heading}
    {g : Heading} {e : Nat}
    (hrest : ∀ k ∈ rest, h.line < k.line) (hline : g.line < h.line) (hlevel : h.level ≤ g.level) :
    EndsAt last (h :: rest) g e ↔ e = h.line - 1 := by
  constructor
  · rintro (⟨k, hk, -, -, hmin, rfl⟩ | ⟨hnone, -⟩)
    · have hle := hmin h (by simp) hline hlevel
      rcases List.mem_cons.1 hk with rfl | hk
      · rfl
      · have := hrest k hk
        omega
    · have := hnone h (by simp) hline
      omega
  · rintro rfl
    refine .inl ⟨h, by simp, hline, hlevel, ?_, rfl⟩
    intro k hk _ _
    rcases List.mem_cons.1 hk with rfl | hk
    · exact Nat.le_refl _
    · exact Nat.le_of_lt (hrest k hk)

private theorem endsAt_cons_of_skip {last : Nat} {h : Heading} {rest : List Heading} {g : Heading}
    {e : Nat} (hskip : g.line < h.line → g.level < h.level) :
    EndsAt last (h :: rest) g e ↔ EndsAt last rest g e := by
  constructor
  · rintro (⟨k, hk, hline, hlevel, hmin, he⟩ | ⟨hnone, he⟩)
    · rcases List.mem_cons.1 hk with rfl | hk
      · have := hskip hline
        omega
      · exact .inl ⟨k, hk, hline, hlevel, fun m hm => hmin m (by simp [hm]), he⟩
    · exact .inr ⟨fun k hk => hnone k (by simp [hk]), he⟩
  · rintro (⟨k, hk, hline, hlevel, hmin, he⟩ | ⟨hnone, he⟩)
    · refine .inl ⟨k, by simp [hk], hline, hlevel, ?_, he⟩
      intro m hm hml hmk
      rcases List.mem_cons.1 hm with rfl | hm
      · have := hskip hml
        omega
      · exact hmin m hm hml hmk
    · refine .inr ⟨?_, he⟩
      intro k hk hkl
      rcases List.mem_cons.1 hk with rfl | hk
      · exact hskip hkl
      · exact hnone k hk hkl

private theorem fold?_eq_some {h : Heading} {e : Nat} {f : Fold} :
    h.fold? e = some f ↔ f = ⟨h.line, e⟩ ∧ h.line < e := by
  unfold fold?
  split <;> simp_all [eq_comm]

/-- The open headings, innermost first, before the headings that are still to come. -/
structure Stack (last : Nat) (above hs : List Heading) : Prop where
  nested : above.Pairwise fun g k => k.line < g.line ∧ k.level < g.level
  earlier : ∀ g ∈ above, ∀ h ∈ hs, g.line < h.line
  sorted : hs.Pairwise fun h k => h.line < k.line
  bounded : ∀ h ∈ hs, h.line ≤ last

private theorem span_closes {above : List Heading} (level : Nat)
    (hnested : above.Pairwise fun g k => k.line < g.line ∧ k.level < g.level) :
    above.takeWhile (fun k => decide (level ≤ k.level)) = above.filter (fun k => decide (level ≤ k.level)) ∧
      above.dropWhile (fun k => decide (level ≤ k.level)) =
        above.filter (fun k => !decide (level ≤ k.level)) := by
  induction above with
  | nil => exact ⟨rfl, rfl⟩
  | cons a above ih =>
    rw [List.pairwise_cons] at hnested
    by_cases ha : level ≤ a.level
    · simpa [ha] using ih hnested.2
    · have hdeeper : ∀ g ∈ above, g.level < level := by
        intro g hg
        have := (hnested.1 g hg).2
        omega
      refine ⟨by simpa [ha] using hdeeper, ?_⟩
      rw [List.dropWhile_cons_of_neg (by simpa using ha)]
      symm
      apply List.filter_eq_self.2
      intro g hg
      rcases List.mem_cons.1 hg with rfl | hg
      · simpa using ha
      · simpa using hdeeper g hg

private theorem Stack.push {last : Nat} {above rest : List Heading} {h : Heading}
    (hs : Stack last above (h :: rest)) :
    Stack last (h :: above.dropWhile fun k => decide (h.level ≤ k.level)) rest := by
  have hsorted := List.pairwise_cons.1 hs.sorted
  refine ⟨List.pairwise_cons.2 ⟨?_, hs.nested.sublist (List.dropWhile_sublist _)⟩, ?_, hsorted.2, ?_⟩
  · intro k hk
    rw [(span_closes h.level hs.nested).2, List.mem_filter] at hk
    exact ⟨hs.earlier k hk.1 h (by simp), by simpa using hk.2⟩
  · intro g hg k hk
    rcases List.mem_cons.1 hg with rfl | hg
    · exact hsorted.1 k hk
    · exact hs.earlier g ((List.dropWhile_sublist _).subset hg) k (by simp [hk])
  · intro k hk
    exact hs.bounded k (by simp [hk])

private theorem mem_folds {last : Nat} {above hs : List Heading} (hstack : Stack last above hs)
    {f : Fold} : f ∈ folds last above hs ↔
      ∃ g ∈ above ++ hs, ∃ e, EndsAt last hs g e ∧ g.fold? e = some f := by
  induction hs generalizing above with
  | nil => simp [folds, endsAt_nil]
  | cons h rest ih =>
    have hrest := (List.pairwise_cons.1 hstack.sorted).1
    have hearlier : ∀ g ∈ above, g.line < h.line := fun g hg => hstack.earlier g hg h (by simp)
    have hclosed : ∀ g, g ∈ above.takeWhile (fun k => decide (h.level ≤ k.level)) ↔
        g ∈ above ∧ h.level ≤ g.level := by
      intro g
      rw [(span_closes h.level hstack.nested).1, List.mem_filter, decide_eq_true_iff]
    have hkept : ∀ g, g ∈ above.dropWhile (fun k => decide (h.level ≤ k.level)) ↔
        g ∈ above ∧ g.level < h.level := by
      intro g
      rw [(span_closes h.level hstack.nested).2, List.mem_filter]
      simp
    simp only [folds]
    rw [List.mem_append, List.mem_filterMap, ih hstack.push]
    -- `h` ends the open sections that are no shallower than its own, and none of the others
    constructor
    · rintro (⟨g, hg, hf⟩ | ⟨g, hg, e, he, hf⟩)
      · obtain ⟨hg, hlevel⟩ := (hclosed g).1 hg
        refine ⟨g, by simp [hg], h.line - 1, ?_, hf⟩
        exact (endsAt_cons_of_closes hrest (hearlier g hg) hlevel).2 rfl
      · rcases List.mem_append.1 hg with hg | hg
        · rcases List.mem_cons.1 hg with rfl | hg
          · exact ⟨g, by simp, e, (endsAt_cons_of_skip (by omega)).2 he, hf⟩
          · obtain ⟨hg, hlevel⟩ := (hkept g).1 hg
            exact ⟨g, by simp [hg], e, (endsAt_cons_of_skip fun _ => hlevel).2 he, hf⟩
        · have := hrest g hg
          exact ⟨g, by simp [hg], e, (endsAt_cons_of_skip (by omega)).2 he, hf⟩
    · rintro ⟨g, hg, e, he, hf⟩
      rcases List.mem_append.1 hg with hg | hg
      · by_cases hlevel : h.level ≤ g.level
        · rw [endsAt_cons_of_closes hrest (hearlier g hg) hlevel] at he
          exact .inl ⟨g, (hclosed g).2 ⟨hg, hlevel⟩, he ▸ hf⟩
        · rw [endsAt_cons_of_skip (by omega)] at he
          have := (hkept g).2 ⟨hg, by omega⟩
          exact .inr ⟨g, by simp [this], e, he, hf⟩
      · rcases List.mem_cons.1 hg with rfl | hg
        · rw [endsAt_cons_of_skip (by omega)] at he
          exact .inr ⟨g, by simp, e, he, hf⟩
        · have := hrest g hg
          rw [endsAt_cons_of_skip (by omega)] at he
          exact .inr ⟨g, by simp [hg], e, he, hf⟩

private theorem pairwise_closed {above : List Heading} (e : Nat)
    (hnested : above.Pairwise fun g k => k.line < g.line ∧ k.level < g.level) :
    (above.filterMap (·.fold? e)).Pairwise Fold.ClosesBefore := by
  rw [List.pairwise_filterMap]
  refine hnested.imp ?_
  intro g k hgk f hf f' hf'
  obtain ⟨rfl, -⟩ := fold?_eq_some.1 hf
  obtain ⟨rfl, -⟩ := fold?_eq_some.1 hf'
  exact .inr ⟨rfl, hgk.1⟩

private theorem pairwise_folds {last : Nat} {above hs : List Heading} (hstack : Stack last above hs) :
    (folds last above hs).Pairwise Fold.ClosesBefore := by
  induction hs generalizing above with
  | nil => exact pairwise_closed last hstack.nested
  | cons h rest ih =>
    simp only [folds]
    refine List.pairwise_append.2 ⟨pairwise_closed _ (hstack.nested.sublist (List.takeWhile_sublist _)),
      ih hstack.push, ?_⟩
    intro a ha b hb
    left
    obtain ⟨g, -, hg⟩ := List.mem_filterMap.1 ha
    obtain ⟨rfl, hline⟩ := fold?_eq_some.1 hg
    obtain ⟨k, -, e, he, hk⟩ := (mem_folds hstack.push).1 hb
    obtain ⟨rfl, -⟩ := fold?_eq_some.1 hk
    have hlater : h.line ≤ e := by
      rcases he with ⟨m, hm, -, -, -, rfl⟩ | ⟨-, rfl⟩
      · have := (List.pairwise_cons.1 hstack.sorted).1 m hm
        omega
      · exact hstack.bounded h (by simp)
    dsimp only at hline ⊢
    omega

end Heading

theorem Line.level?_eq_some {l : Line} {level : Nat} :
    l.level? = some level ↔ l.role = .heading level := by
  unfold Line.level? Line.role Role.ofContent
  by_cases hempty : l.content = []
  · simp [hempty, Role.level]
  · rw [if_neg hempty]
    cases hlevel : Role.level l.content with
    | zero => by_cases hcomment : commentMark.isPrefixOf l.content = true <;> simp [hcomment]
    | succ n => simp

theorem Line.level_of_heading {l : Line} {level : Nat} (h : l.role = .heading level) :
    Role.level l.content = level ∧ 0 < level := by
  have hlevel := Line.level?_eq_some.2 h
  unfold Line.level? at hlevel
  split at hlevel
  next => cases hlevel
  next n hn =>
    cases hlevel
    exact ⟨hn, Nat.succ_pos n⟩

namespace Document

def HeadingAt (d : Document) (i level : Nat) : Prop :=
  ∃ l, d.lines[i]? = some l ∧ l.role = .heading level

/-- Line `j` is a heading after line `i` that is no deeper than the level. -/
def Closes (d : Document) (i level j : Nat) : Prop := i < j ∧ ∃ m ≤ level, d.HeadingAt j m

/-- The last line of the section that a heading of the given level on line `i` opens. -/
inductive SectionEnd (d : Document) (i level : Nat) : Nat → Prop
  | closed {j : Nat} : IsLeast {j | d.Closes i level j} j → SectionEnd d i level (j - 1)
  | unclosed : (∀ j, ¬ d.Closes i level j) → SectionEnd d i level d.lastIndex

def IsFold (d : Document) (f : Fold) : Prop :=
  ∃ level, d.HeadingAt f.first level ∧ d.SectionEnd f.first level f.last ∧ f.first < f.last

theorem index_of_getElem? {t : Text} {i : Nat} {l : Line} (h : (ofText t).lines[i]? = some l) :
    l.index = i := by
  unfold ofText ofLines at h
  rw [List.getElem?_mapIdx] at h
  obtain ⟨raw, -, rfl⟩ := Option.map_eq_some_iff.1 h
  rfl

theorem mem_headings {t : Text} {h : Heading} :
    h ∈ (ofText t).headings ↔ (ofText t).HeadingAt h.line h.level := by
  unfold headings HeadingAt
  rw [List.mem_filterMap]
  constructor
  · rintro ⟨l, hl, hh⟩
    obtain ⟨i, hi⟩ := List.getElem?_of_mem hl
    obtain ⟨level, hlevel, rfl⟩ := Option.map_eq_some_iff.1 hh
    have hindex := index_of_getElem? hi
    exact ⟨l, hindex ▸ hi, Line.level?_eq_some.1 hlevel⟩
  · rintro ⟨l, hl, hrole⟩
    refine ⟨l, List.mem_of_getElem? hl, ?_⟩
    rw [Line.level?_eq_some.2 hrole, index_of_getElem? hl]
    rfl

private theorem sorted_headings (t : Text) :
    (ofText t).headings.Pairwise fun h k => h.line < k.line := by
  unfold headings
  rw [List.pairwise_filterMap, List.pairwise_iff_getElem]
  intro i j hi hj hij h hh k hk
  obtain ⟨_, -, rfl⟩ := Option.map_eq_some_iff.1 hh
  obtain ⟨_, -, rfl⟩ := Option.map_eq_some_iff.1 hk
  dsimp only
  rw [index_of_getElem? (List.getElem?_eq_getElem hi), index_of_getElem? (List.getElem?_eq_getElem hj)]
  exact hij

private theorem stack_headings (t : Text) :
    Heading.Stack (ofText t).lastIndex [] (ofText t).headings := by
  refine ⟨.nil, by simp, sorted_headings t, ?_⟩
  intro h hh
  obtain ⟨l, hl, -⟩ := mem_headings.1 hh
  have hlt := (List.getElem?_eq_some_iff.1 hl).1
  unfold lastIndex lineCount
  omega

private theorem endsAt_headings {t : Text} {g : Heading} {e : Nat} :
    Heading.EndsAt (ofText t).lastIndex (ofText t).headings g e ↔
      (ofText t).SectionEnd g.line g.level e := by
  constructor
  · rintro (⟨h, hh, hline, hlevel, hmin, rfl⟩ | ⟨hnone, rfl⟩)
    · refine .closed ⟨⟨hline, h.level, hlevel, mem_headings.1 hh⟩, ?_⟩
      rintro j ⟨hj, m, hm, hjm⟩
      exact hmin ⟨j, m⟩ (mem_headings.2 hjm) hj hm
    · refine .unclosed ?_
      rintro j ⟨hj, m, hm, hjm⟩
      have := hnone ⟨j, m⟩ (mem_headings.2 hjm) hj
      dsimp only at this
      omega
  · rintro (⟨⟨hj, m, hm, hjm⟩, hmin⟩ | hnone)
    · refine .inl ⟨⟨_, m⟩, mem_headings.2 hjm, hj, hm, ?_, rfl⟩
      intro k hk hline hlevel
      exact hmin ⟨hline, k.level, hlevel, mem_headings.1 hk⟩
    · refine .inr ⟨?_, rfl⟩
      intro k hk hline
      apply Nat.lt_of_not_le
      intro hlevel
      exact hnone k.line ⟨hline, k.level, hlevel, mem_headings.1 hk⟩

theorem mem_folds_iff_isFold {t : Text} {f : Fold} : f ∈ (ofText t).folds ↔ (ofText t).IsFold f := by
  unfold folds IsFold
  rw [Heading.mem_folds (stack_headings t), List.nil_append]
  constructor
  · rintro ⟨g, hg, e, he, hf⟩
    obtain ⟨rfl, hline⟩ := Heading.fold?_eq_some.1 hf
    exact ⟨g.level, mem_headings.1 hg, endsAt_headings.1 he, hline⟩
  · rintro ⟨level, hfirst, hlast, hline⟩
    refine ⟨⟨f.first, level⟩, mem_headings.2 hfirst, f.last, endsAt_headings.2 hlast, ?_⟩
    exact Heading.fold?_eq_some.2 ⟨rfl, hline⟩

private theorem closesBefore_folds (t : Text) : (ofText t).folds.Pairwise Fold.ClosesBefore :=
  Heading.pairwise_folds (stack_headings t)

theorem nodup_folds (t : Text) : (ofText t).folds.Nodup := by
  refine (closesBefore_folds t).imp ?_
  rintro a b hab rfl
  rcases hab with h | ⟨-, h⟩ <;> omega

/-- The folds of a document are its sections, each once, in closing order. -/
theorem folds_exact (t : Text) :
    (∀ f, f ∈ (ofText t).folds ↔ (ofText t).IsFold f) ∧ (ofText t).folds.Nodup ∧
      (ofText t).folds.Pairwise Fold.ClosesBefore :=
  ⟨fun _ => mem_folds_iff_isFold, nodup_folds t, closesBefore_folds t⟩

end Document
end Regimen
