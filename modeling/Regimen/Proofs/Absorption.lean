import Regimen.Proofs.Placing

/-! Formatting settles a document: whatever it was laid out with before, formatting it again depends
only on the width that is now asked for. -/
namespace Regimen.Layout

open Text

theorem trim_lead_append (b : Text) {r : Text} (hr : ∀ c ∈ r.getLast?, isBlank c = false) :
    trim (lead b ++ '{' :: r) = trimStart isBlank (lead b) ++ '{' :: r := by
  have hlast : ∀ c ∈ (trimStart isBlank (lead b) ++ '{' :: r).getLast?, isBlank c = false := by
    intro c hc
    cases r with
    | nil =>
      have hbrace : '{' = c := by simpa using hc
      rw [← hbrace]
      decide
    | cons d r =>
      apply hr c
      simpa [List.getLast?_append] using hc
  unfold trim trimBy
  rw [trimStart_append_cons (by decide), trimEnd_of_last hlast]

private theorem lead_trim_lead {b : Text} (hb : Tight isBlank b) : lead (trim (lead b)) = lead b := by
  by_cases hne : b = []
  · subst hne
    rfl
  · have hlead : lead b = Slash.space b ++ [' '] := by simp [lead, hne]
    have htrim : trim (lead b) = trim (Slash.space b) := by
      rw [hlead]
      exact @trimBy_between isBlank [] [' '] (by simp) (by simp) (Slash.space b)
    have hspace : Slash.space (trim (Slash.space b)) = Slash.space b :=
      Slash.space_trimBy (fun _ => id) (by decide) hb
    have hkept : trim (Slash.space b) ≠ [] := by
      intro h
      have hhead := (ends_of_ink hb (Slash.respaced_space b).ink_eq.symm).1
      rw [h] at hhead
      exact hne (List.head?_eq_none_iff.1 hhead.symm)
    rw [htrim, hlead]
    simp [lead, hkept, hspace]

private theorem trim_trail {a : Text} (ha : Tight isBlank a) : trim (trail a) = a := by
  unfold trail
  split
  next h =>
    rw [h]
    rfl
  next =>
    have := @trimBy_of_tight isBlank [' '] a [] (by simp) ha (by simp)
    rwa [List.append_nil] at this

private theorem ink_last_trail (inner r : Text) :
    ∀ x ∈ (inner ++ Block.closeMark ++ trail (trim r)).getLast?, isBlank x = false := by
  intro x hx
  unfold trail at hx
  split at hx
  next =>
    have hbrace : '}' = x := by simpa [Block.closeMark] using hx
    rw [← hbrace]
    decide
  next hne =>
    apply (tight_trim r).last x
    obtain ⟨d, a, ha⟩ := List.exists_cons_of_ne_nil hne
    rw [ha] at hx ⊢
    simpa [List.getLast?_append] using hx

theorem placeBody_of_openMark (c : Context) {s : Text} (hs : Tight isBlank s)
    (h : Block.openMark <:+: s) : ∃ l r r', s = l ++ '{' :: r ∧
      (placeBody c s).2.content = lead (trim l) ++ '{' :: r' ∧ ∀ x ∈ r'.getLast?, isBlank x = false := by
  have hdiv := Block.divided_divide s
  generalize Block.divide s = d at hdiv
  cases hdiv with
  | none hno => exact absurd h hno
  | @closed l inner r hopen hclose =>
    refine ⟨l, _, inner ++ Block.closeMark ++ trail (trim r), rfl, ?_, ink_last_trail inner r⟩
    rw [placeBody_of_single c (.closed hopen hclose)]
    simp
  | @early l r hopen hr hl =>
    refine ⟨l, r, r, rfl, ?_, hs.last_of_append (List.append_cons l '{' r).symm⟩
    rw [placeBody_of_single c (.early hopen hr hl)]
    simp [trail]
  | @opening l r hopen hr hl =>
    refine ⟨l, r, r, rfl, ?_, hs.last_of_append (List.append_cons l '{' r).symm⟩
    rw [placeBody_of_opening c (.opening hopen hr hl)]

private theorem openMark_prefix_closed {inner r : Text} (r' : Text)
    (h : Block.openMark <+: '{' :: (inner ++ Block.closeMark ++ r)) :
    Block.openMark <+: '{' :: (inner ++ Block.closeMark ++ r') := by
  have hblock : Block.openMark <+: '{' :: (inner ++ Block.closeMark) :=
    List.prefix_of_prefix_length_le h (List.prefix_append ('{' :: (inner ++ Block.closeMark)) r)
      (by simp [Block.openMark, Block.closeMark])
  exact hblock.trans (List.prefix_append ('{' :: (inner ++ Block.closeMark)) r')

private theorem mark_infix_lead {a b : Char} (ha : isBlank a = false) (hb : isBlank b = false)
    (ha' : a ≠ '/') (hb' : b ≠ '/') (l : Text) :
    [a, b] <:+: trimStart isBlank (lead (trim l)) ↔ [a, b] <:+: l := by
  have hlead : [a, b] <:+: lead (trim l) ↔ [a, b] <:+: trim l := by
    unfold lead
    split
    next h => rw [h]
    next =>
      have hspace : b ∉ [' '] := by
        intro h
        rw [List.mem_singleton.1 h, isBlank_space] at hb
        contradiction
      rw [pair_infix_append_right hspace, Slash.pair_infix_space ha hb ha' hb']
  rw [← pair_infix_trimBy ha hb (trimStart isBlank _), trimBy_trimStart, pair_infix_trimBy ha hb, hlead]
  exact pair_infix_trimBy ha hb l

private theorem openMark_infix_lead (l : Text) :
    Block.openMark <:+: trimStart isBlank (lead (trim l)) ↔ Block.openMark <:+: l :=
  mark_infix_lead (by decide) (by decide) (by decide) (by decide) l

private theorem closeMark_infix_lead (l : Text) :
    Block.closeMark <:+: trimStart isBlank (lead (trim l)) ↔ Block.closeMark <:+: l :=
  mark_infix_lead (by decide) (by decide) (by decide) (by decide) l

private theorem firstAt_lead {l r r' : Text} (h : FirstAt Block.openMark l ('{' :: r))
    (hr : Block.openMark <+: '{' :: r') :
    FirstAt Block.openMark (trimStart isBlank (lead (trim l))) ('{' :: r') :=
  Block.firstAt_openMark.2
    ⟨hr, (openMark_infix_lead l).not.2 (Block.firstAt_openMark.1 h).2⟩

private theorem lead_trim_trimStart (l : Text) :
    lead (trim (trimStart isBlank (lead (trim l)))) = lead (trim l) := by
  unfold trim
  rw [trimBy_trimStart]
  exact lead_trim_lead (tight_trim l)

private theorem placeBody_again (c : Context) {s : Text} (hs : Tight isBlank s) :
    placeBody c (trim (placeBody c s).2.content) = placeBody c s := by
  have hdiv := Block.divided_divide s
  generalize Block.divide s = d at hdiv
  cases hdiv with
  | none hno =>
    rw [placeBody_of_none c (.none hno)]
    dsimp only
    split
    next hcomment =>
      have htrim : trim s = s := hs.trimBy_eq
      rw [htrim, placeBody_of_none c (.none hno), if_pos hcomment]
    next =>
      have hspaced : ¬ Block.openMark <:+: trim (Slash.space s) := by
        unfold trim Block.openMark
        rw [pair_infix_trimBy (by decide) (by decide),
          Slash.pair_infix_space (by decide) (by decide) (by decide) (by decide)]
        exact hno
      have hcode : ¬ commentMark.isPrefixOf (trim (Slash.space s)) = true := by
        intro h
        have hpre := (List.isPrefixOf_iff_prefix.1 h).isInfix
        exact Slash.slashes_apart s ((pair_infix_trimBy (by decide) (by decide) _).1 hpre)
      have hspace : Slash.space (trim (Slash.space s)) = Slash.space s :=
        Slash.space_trimBy (fun _ => id) (by decide) hs
      rw [placeBody_of_none c (.none hspaced), if_neg hcode, hspace]
  | @closed l inner r hopen hclose =>
    have hmark := openMark_prefix_closed (trail (trim r)) hopen.1
    have hfirst : FirstAt Block.closeMark inner (Block.closeMark ++ trail (trim r)) :=
      Block.firstAt_closeMark.2 ⟨List.prefix_append _ _, (Block.firstAt_closeMark.1 hclose).2⟩
    have hline : trim (lead (trim l) ++ '{' :: (inner ++ Block.closeMark) ++ trail (trim r)) =
        trimStart isBlank (lead (trim l)) ++ '{' :: (inner ++ Block.closeMark ++ trail (trim r)) := by
      simpa using trim_lead_append (trim l) (ink_last_trail inner r)
    rw [placeBody_of_single c (.closed hopen hclose), hline,
      placeBody_of_single c (.closed (firstAt_lead hopen hmark) hfirst), lead_trim_trimStart,
      trim_trail (tight_trim r)]
  | @early l r hopen hr hl =>
    have hline := trim_lead_append (trim l) (hs.last_of_append (List.append_cons l '{' r).symm)
    have hl' := (closeMark_infix_lead l).2 hl
    rw [placeBody_of_single c (.early hopen hr hl)]
    simp only [trail, if_true, List.append_nil]
    rw [hline, placeBody_of_single c (.early (firstAt_lead hopen hopen.1) hr hl'), lead_trim_trimStart]
    simp [trail]
  | @opening l r hopen hr hl =>
    have hline := trim_lead_append (trim l) (hs.last_of_append (List.append_cons l '{' r).symm)
    have hl' := (closeMark_infix_lead l).not.2 hl
    rw [placeBody_of_opening c (.opening hopen hr hl), hline,
      placeBody_of_opening c (.opening (firstAt_lead hopen hopen.1) hr hl'), lead_trim_trimStart]

/-- A line that has been placed is placed in the same way again. -/
theorem place_again (c : Context) {s : Text} (hs : Tight isMargin s) :
    place c (trimBy isMargin (place c s).2.content) = place c s := by
  rcases place_cases c s with h | ⟨⟨d, hd, hne⟩, hout, h⟩
  · rw [h, hs.trimBy_eq]
  · rw [place_body c ((head?_place c hs).trans hd) hne, hout, trimBy_place c hs, h]
    exact placeBody_again c hs.blank_of_margin

private theorem placeAll_again (c : Context) {ss : List Text} (hss : ∀ s ∈ ss, Tight isMargin s) :
    placeAll c ((placeAll c ss).2.map fun p => trimBy isMargin p.content) = placeAll c ss := by
  induction ss generalizing c with
  | nil => rfl
  | cons s ss ih =>
    have hrest := ih (place c s).1 fun s hs => hss s (by simp [hs])
    simp only [placeAll, List.map_cons]
    rw [place_again c (hss s (by simp)), hrest]

theorem placeAll_format (w : Nat) (t : Text) :
    placeAll {} (Document.ofText (format w t)).contents = placeAll {} (Document.ofText t).contents := by
  rw [contents_format]
  exact placeAll_again {} fun s => Document.tight_of_mem_contents

theorem format_congr (w : Nat) {t t' : Text}
    (h : placeAll {} (Document.ofText t).contents = placeAll {} (Document.ofText t').contents) :
    format w t = format w t' := by
  rw [format_eq_contents w t, h, ← format_eq_contents]

/-- The width that a document was laid out with before has no influence on its layout. -/
theorem format_absorbs (v w : Nat) (t : Text) : format w (format v t) = format w t :=
  format_congr w (placeAll_format v t)

end Regimen.Layout
