import Regimen.Layout
import Regimen.Proofs.Contents
import Regimen.Proofs.Marks
import Regimen.Proofs.Spacing

/-! One line, placed. Placing opens gaps next to slashes and around a block, and changes nothing else;
a line that has been placed is placed again in the same way. -/
namespace Regimen

open Text

namespace Block

/-- The left text ends with the closing mark of a block that opened on the same line. -/
def ClosedBefore (l r : Text) : Prop := ∃ before inner,
  l = before ++ '{' :: (inner ++ closeMark) ∧
    FirstAt openMark before ('{' :: (inner ++ closeMark ++ r)) ∧ FirstAt closeMark inner (closeMark ++ r)

end Block

namespace Layout

/-- Where placing a line may open a gap. -/
def MayOpen (l r : Text) : Prop :=
  Slash.NextTo l r ∨ FirstAt Block.openMark l r ∨ Block.ClosedBefore l r

private theorem respaced_lead {l r r' : Text} (hl : ∀ c ∈ l.head?, isBlank c = false)
    (hopen : FirstAt Block.openMark l ('{' :: r)) (h : Respaced MayOpen (l ++ ['{']) r r') :
    Respaced MayOpen [] (l ++ '{' :: r) (lead (trim l) ++ '{' :: r') := by
  obtain ⟨g, hg, hlg⟩ : ∃ g, Blanks g ∧ trim l ++ g = l := exists_trimBy_append hl
  unfold lead
  by_cases hb : trim l = []
  · rw [if_pos hb]
    rw [hb, List.nil_append] at hlg
    subst hlg
    exact .ink hg blanks_nil (by decide) (by simp) (by simpa using h)
  · rw [if_neg hb, List.append_assoc]
    nth_rewrite 1 [← hlg]
    rw [List.append_assoc]
    refine (Slash.respaced_space (trim l)).append hg (by simp) (by simp) (by decide) ?_ ?_ ?_
    · rintro l₁ r₁ (h₁ | h₁)
      · exact .inl (.inl h₁)
      · exact .inl (.inr (by simp [List.head?_append, h₁]))
    · rw [List.nil_append, hlg]
      exact .inr (.inl hopen)
    · rw [List.nil_append, hlg]
      exact h

private theorem respaced_trail {l inner r : Text} (hr : ∀ c ∈ r.getLast?, isBlank c = false)
    (hopen : FirstAt Block.openMark l ('{' :: (inner ++ Block.closeMark ++ r)))
    (hclose : FirstAt Block.closeMark inner (Block.closeMark ++ r)) :
    Respaced MayOpen (l ++ ['{']) (inner ++ Block.closeMark ++ r)
      (inner ++ Block.closeMark ++ trail (trim r)) := by
  have hcopy : ∀ t : Text, inner ++ Block.closeMark ++ t = inner ++ ['~'] ++ '}' :: t := by
    intro t
    simp [Block.closeMark]
  have hclosed : Block.ClosedBefore (l ++ ['{'] ++ (inner ++ ['~']) ++ ['}']) r :=
    ⟨l, inner, by simp [Block.closeMark], hopen, hclose⟩
  rw [hcopy, hcopy]
  apply Respaced.copy (by decide)
  obtain ⟨g, hg, hgr⟩ : ∃ g, Blanks g ∧ g ++ trim r = r := exists_append_trimBy hr
  have htight := tight_trim r
  unfold trail
  by_cases ha : trim r = []
  · rw [if_pos ha]
    rw [ha, List.append_nil] at hgr
    exact .blanks (hgr ▸ hg) blanks_nil
  · rw [if_neg ha]
    obtain ⟨c, a, hca⟩ := List.exists_cons_of_ne_nil ha
    rw [hca] at hgr htight ⊢
    nth_rewrite 1 [← hgr]
    refine .ink (h := [' ']) hg (by simp) (htight.head c rfl) (fun _ => ?_) (.refl _ a)
    refine ⟨fun _ => by simp, fun he _ => .inr (.inr ?_)⟩
    rw [he, List.nil_append] at hgr
    rwa [hgr]

theorem placeBody_of_none (c : Context) {s : Text} (h : Block.Divided s .none) :
    placeBody c s = (c, ⟨c.bodyUnits, if commentMark.isPrefixOf s then s else Slash.space s⟩) := by
  unfold placeBody
  rw [Block.divide_eq h]

theorem placeBody_of_single (c : Context) {s before block after : Text}
    (h : Block.Divided s (.single before block after)) :
    placeBody c s = (c, ⟨c.bodyUnits, lead before ++ block ++ trail after⟩) := by
  unfold placeBody
  rw [Block.divide_eq h]

theorem placeBody_of_opening (c : Context) {s before block : Text}
    (h : Block.Divided s (.opening before block)) :
    placeBody c s = (c.enterBlock, ⟨c.bodyUnits, lead before ++ block⟩) := by
  unfold placeBody
  rw [Block.divide_eq h]

private theorem respaced_placeBody (c : Context) {s : Text} (hs : Tight isBlank s) :
    Respaced MayOpen [] s (placeBody c s).2.content := by
  have hdiv := Block.divided_divide s
  generalize Block.divide s = d at hdiv
  cases hdiv with
  | none hno =>
    rw [placeBody_of_none c (.none hno)]
    dsimp only
    split
    · exact .refl [] s
    · exact (Slash.respaced_space s).mono fun _ _ h => .inl h
  | @closed l inner r hopen hclose =>
    have hblock : (l ++ '{' :: (inner ++ Block.closeMark)) ++ r =
        l ++ '{' :: (inner ++ Block.closeMark ++ r) := by simp
    have htrail := respaced_trail (hs.last_of_append hblock) hopen hclose
    have := respaced_lead (hs.head_of_append rfl) hopen htrail
    rw [placeBody_of_single c (.closed hopen hclose)]
    simpa using this
  | @early l r hopen hr hl =>
    rw [placeBody_of_single c (.early hopen hr hl)]
    simpa [trail] using respaced_lead (hs.head_of_append rfl) hopen (.refl _ r)
  | @opening l r hopen hr hl =>
    rw [placeBody_of_opening c (.opening hopen hr hl)]
    exact respaced_lead (hs.head_of_append rfl) hopen (.refl _ r)

@[simp] theorem content_placeCode (c : Context) (s : Text) : (placeCode c s).2.content = s := by
  unfold placeCode
  split
  · rfl
  · split <;> rfl

theorem level_eq_zero {s : Text} {d : Char} (h : s.head? = some d) (hd : d ≠ '#') :
    Role.level s = 0 := by
  cases s with
  | nil => rfl
  | cons e s =>
    have he : e = d := by simpa using h
    simp [Role.level, he, hd]

theorem place_body (c : Context) {s : Text} {d : Char} (h : s.head? = some d) (hd : d ≠ '#') :
    place c s = if c.inBlock then placeCode c s else placeBody c s := by
  have hne : s ≠ [] := by
    rintro rfl
    simp at h
  have hlevel := level_eq_zero h hd
  unfold place Role.ofContent
  by_cases hcomment : commentMark.isPrefixOf s = true <;> simp [hne, hlevel, hcomment]

/-- The only lines that are not written as they are stand outside a block and are neither blank nor
headings. -/
theorem place_cases (c : Context) (s : Text) : (place c s).2.content = s ∨
    (∃ d, s.head? = some d ∧ d ≠ '#') ∧ c.inBlock = false ∧ place c s = placeBody c s := by
  cases s with
  | nil => exact .inl rfl
  | cons d t =>
    by_cases hd : d = '#'
    · left
      subst hd
      have hlevel : 0 < Role.level ('#' :: t) := by simp [Role.level]
      unfold place Role.ofContent
      simp only [reduceCtorEq, if_false, hlevel, if_true]
      split <;> rfl
    · rw [place_body c rfl hd]
      by_cases hb : c.inBlock = true
      · left
        simp [hb]
      · right
        exact ⟨⟨d, rfl, hd⟩, by simpa using hb, by simp [hb]⟩

theorem respaced_place (c : Context) {s : Text} (hs : Tight isMargin s) :
    Respaced MayOpen [] s (place c s).2.content := by
  rcases place_cases c s with h | ⟨-, -, h⟩
  · rw [h]
    exact .refl [] s
  · rw [h]
    exact respaced_placeBody c hs.blank_of_margin

theorem trimBy_place (c : Context) {s : Text} (hs : Tight isMargin s) :
    trimBy isMargin (place c s).2.content = trim (place c s).2.content :=
  trimBy_isMargin hs (respaced_place c hs).ink_eq.symm

theorem head?_place (c : Context) {s : Text} (hs : Tight isMargin s) :
    (trimBy isMargin (place c s).2.content).head? = s.head? := by
  rw [trimBy_place c hs]
  exact (ends_of_ink hs.blank_of_margin (respaced_place c hs).ink_eq.symm).1

private theorem mem_lead {l : Text} {x : Char} (h : x ∈ lead (trim l)) : x = ' ' ∨ x ∈ l := by
  unfold lead at h
  split at h
  · simp at h
  · rcases List.mem_append.1 h with h | h
    · exact (Slash.mem_space h).imp_right mem_of_mem_trimBy
    · exact .inl (by simpa using h)

private theorem mem_trail {r : Text} {x : Char} (h : x ∈ trail (trim r)) : x = ' ' ∨ x ∈ r := by
  unfold trail at h
  split at h
  · simp at h
  · exact (List.mem_cons.1 h).imp_right mem_of_mem_trimBy

private theorem mem_place {c : Context} {s : Text} {x : Char} (h : x ∈ (place c s).2.content) :
    x = ' ' ∨ x ∈ s := by
  rcases place_cases c s with hp | ⟨-, -, hp⟩
  · rw [hp] at h
    exact .inr h
  rw [hp] at h
  have hdiv := Block.divided_divide s
  generalize Block.divide s = d at hdiv
  cases hdiv with
  | none hno =>
    rw [placeBody_of_none c (.none hno)] at h
    dsimp only at h
    split at h
    · exact .inr h
    · exact Slash.mem_space h
  | @closed l inner r hopen hclose =>
    rw [placeBody_of_single c (.closed hopen hclose), List.append_assoc, List.mem_append,
      List.mem_append] at h
    rcases h with h | h | h
    · exact (mem_lead h).imp_right fun h => by simp [h]
    · exact .inr (List.mem_append_right l (List.mem_append_left r h))
    · exact (mem_trail h).imp_right fun h => by simp [h]
  | early hopen hr hl =>
    rw [placeBody_of_single c (.early hopen hr hl), List.append_assoc, List.mem_append] at h
    rcases h with h | h
    · exact (mem_lead h).imp_right fun h => List.mem_append_left _ h
    · exact .inr (List.mem_append_right _ (by simpa [trail] using h))
  | opening hopen hr hl =>
    rw [placeBody_of_opening c (.opening hopen hr hl), List.mem_append] at h
    exact h.elim (fun h => (mem_lead h).imp_right (List.mem_append_left _))
      fun h => .inr (List.mem_append_right _ h)

theorem forall₂_placeAll {R : Text → Placed → Prop} {ss : List Text}
    (h : ∀ c, ∀ s ∈ ss, R s (place c s).2) (c : Context) : List.Forall₂ R ss (placeAll c ss).2 := by
  induction ss generalizing c with
  | nil => exact .nil
  | cons s ss ih =>
    refine .cons (h c s (by simp)) (ih (fun c s hs => h c s (by simp [hs])) _)

theorem getElem?_placeAll (c : Context) (ss : List Text) (i : Nat) :
    (placeAll c ss).2[i]? = ss[i]?.map fun s => (place (placeAll c (ss.take i)).1 s).2 := by
  induction ss generalizing c i with
  | nil => rfl
  | cons s ss ih =>
    cases i with
    | zero => rfl
    | succ i =>
      simp only [placeAll, List.getElem?_cons_succ, List.take_succ_cons]
      exact ih _ i

private theorem mem_placeAll {c : Context} {ss : List Text} {p : Placed} (h : p ∈ (placeAll c ss).2) :
    ∃ c', ∃ s ∈ ss, p = (place c' s).2 := by
  induction ss generalizing c with
  | nil => simp [placeAll] at h
  | cons s ss ih =>
    rcases List.mem_cons.1 h with rfl | h
    · exact ⟨c, s, by simp, rfl⟩
    · obtain ⟨c', s', hs', hp⟩ := ih h
      exact ⟨c', s', by simp [hs'], hp⟩

private theorem newline_not_mem_formatLines {w : Nat} {t l : Text}
    (hl : l ∈ formatLines w (Document.ofText t)) : '\n' ∉ l := by
  obtain ⟨p, hp, rfl⟩ := List.mem_map.1 hl
  obtain ⟨c, s, hs, rfl⟩ := mem_placeAll hp
  intro hmem
  rcases List.mem_append.1 hmem with h | h
  · simp at h
  · rcases mem_place h with h | h
    · simp at h
    · exact Document.newline_not_mem_contents hs h

theorem formatLines_ne_nil (w : Nat) (t : Text) : formatLines w (Document.ofText t) ≠ [] := by
  intro h
  have hlen := congrArg List.length h
  simp only [formatLines, List.length_map, length_placeAll, List.length_nil,
    List.length_eq_zero_iff] at hlen
  exact Document.contents_ne_nil t (by simp [Document.contents, hlen])

theorem format_eq_contents (w : Nat) (t : Text) : format w t =
    joinLines ((placeAll {} (Document.ofText t).contents).2.map (Placed.render w)) := rfl

theorem pieces_format (w : Nat) (t : Text) :
    pieces (format w t) = formatLines w (Document.ofText t) :=
  pieces_joinLines (formatLines_ne_nil w t) fun _ => newline_not_mem_formatLines

private theorem trimBy_render (w : Nat) (p : Placed) :
    trimBy isMargin (p.render w) = trimBy isMargin p.content := by
  have hindent : ∀ c ∈ List.replicate (w * p.units) ' ', isMargin c = true :=
    fun c hc => isMargin_of_isBlank (blanks_replicate _ c hc)
  have h := @trimBy_between isMargin _ [] hindent (by simp) p.content
  rwa [List.append_nil] at h

theorem contents_format (w : Nat) (t : Text) : (Document.ofText (format w t)).contents =
    (placeAll {} (Document.ofText t).contents).2.map fun p => trimBy isMargin p.content := by
  rw [Document.contents_ofText, pieces_format]
  unfold formatLines
  rw [List.map_map]
  apply List.map_congr_left
  intro p _
  exact trimBy_render w p

end Layout
end Regimen
