import Regimen.Proofs.Trim

/-! Texts that differ only in their blanks. What is not blank is the ink of a text, and a seam is a
place between two characters that follow each other in the ink. -/
namespace Regimen.Text

def Blanks (g : Text) : Prop := ∀ c ∈ g, isBlank c = true

@[simp] theorem blanks_nil : Blanks [] := by simp [Blanks]

@[simp] theorem blanks_cons {c : Char} {g : Text} :
    Blanks (c :: g) ↔ isBlank c = true ∧ Blanks g := by simp [Blanks]

@[simp] theorem blanks_append {g h : Text} : Blanks (g ++ h) ↔ Blanks g ∧ Blanks h := by
  simp [Blanks, or_imp, forall_and]

@[simp] theorem isBlank_space : isBlank ' ' = true := by decide

theorem blanks_replicate (n : Nat) : Blanks (List.replicate n ' ') := by
  intro c hc
  rw [List.eq_of_mem_replicate hc]
  exact isBlank_space

theorem Blanks.not_mem {g : Text} {c : Char} (hg : Blanks g) (hc : isBlank c = false) : c ∉ g := by
  intro h
  rw [hg c h] at hc
  contradiction

/-- The characters that are not blank. -/
def ink (s : Text) : Text := s.filter fun c => !isBlank c

@[simp] theorem ink_append (s t : Text) : ink (s ++ t) = ink s ++ ink t := List.filter_append ..

@[simp] theorem ink_cons_of_ink {c : Char} (h : isBlank c = false) (s : Text) :
    ink (c :: s) = c :: ink s := by
  simp [ink, h]

@[simp] theorem ink_eq_nil {g : Text} : ink g = [] ↔ Blanks g := by
  simp [ink, Blanks]

@[simp] theorem ink_trim (s : Text) : ink (trim s) = ink s := by
  obtain ⟨g, g', hg, hg', hs⟩ := exists_margins isBlank s
  have h := congrArg ink hs
  rw [ink_append, ink_append, ink_eq_nil.2 hg, ink_eq_nil.2 hg', List.nil_append, List.append_nil] at h
  exact h

private theorem Tight.head?_ink {s : Text} (h : Tight isBlank s) : (ink s).head? = s.head? := by
  cases s with
  | nil => rfl
  | cons c s => rw [ink_cons_of_ink (h.head c rfl)]; rfl

private theorem Tight.getLast?_ink {s : Text} (h : Tight isBlank s) :
    (ink s).getLast? = s.getLast? := by
  by_cases hne : s = []
  · rw [hne]
    rfl
  · have hlast := h.last _ (List.getLast_mem_getLast? hne)
    have hs := List.dropLast_append_getLast hne
    rw [← hs, ink_append, ink_cons_of_ink hlast]
    simp [ink]

theorem ends_of_ink {s t : Text} (hs : Tight isBlank s) (h : ink t = ink s) :
    (trim t).head? = s.head? ∧ (trim t).getLast? = s.getLast? := by
  rw [← (tight_trim t).head?_ink, ← (tight_trim t).getLast?_ink, ink_trim, h, hs.head?_ink, hs.getLast?_ink]
  exact ⟨rfl, rfl⟩

private theorem eq_of_append_ink {g t x y : Text} {c f : Char} (hg : Blanks g) (hf : isBlank f = false)
    (h : g ++ c :: t = x ++ f :: y) :
    (x = g ∧ f = c ∧ y = t) ∨ ∃ u, x = g ++ c :: u ∧ t = u ++ f :: y := by
  rcases List.append_eq_append_iff.1 h with ⟨u, hx, hu⟩ | ⟨u, hx, hu⟩
  · cases u with
    | nil =>
      simp only [List.nil_append, List.cons.injEq] at hu
      exact .inl ⟨by simpa using hx, hu.1.symm, hu.2.symm⟩
    | cons d u =>
      simp only [List.cons_append, List.cons.injEq] at hu
      exact .inr ⟨u, by rw [hx, hu.1], hu.2⟩
  · cases u with
    | nil =>
      simp only [List.nil_append, List.cons.injEq] at hu
      exact .inl ⟨by simpa using hx.symm, hu.1, hu.2⟩
    | cons d u =>
      simp only [List.cons_append, List.cons.injEq] at hu
      exact absurd (by simp [hx, hu.1]) (hg.not_mem hf)

private theorem append_ink_inj {g h s t : Text} {c d : Char} (hg : Blanks g) (hh : Blanks h)
    (hc : isBlank c = false) (hd : isBlank d = false) (e : g ++ c :: s = h ++ d :: t) :
    g = h ∧ c = d ∧ s = t := by
  rcases eq_of_append_ink hh hc e.symm with he | ⟨u, rfl, -⟩
  · exact he
  · exact absurd (by simp) (hg.not_mem hd)

private theorem exists_ink {s : Text} {k : Nat} (hk : k < (ink s).length) :
    ∃ (x : Text) (c : Char) (y : Text),
    x ++ c :: y = s ∧ isBlank c = false ∧ (ink x).length = k := by
  induction s generalizing k with
  | nil => simp [ink] at hk
  | cons c s ih =>
    by_cases hc : isBlank c = true
    · have hs : ink (c :: s) = ink s := by simp [ink, hc]
      obtain ⟨x, d, y, hxy, hd, hx⟩ := ih (hs ▸ hk)
      exact ⟨c :: x, d, y, by simp [hxy], hd, by simpa [ink, hc] using hx⟩
    · have hc : isBlank c = false := by simpa using hc
      cases k with
      | zero => exact ⟨[], c, s, rfl, hc, rfl⟩
      | succ k =>
        obtain ⟨x, d, y, hxy, hd, hx⟩ := ih (k := k) (by simpa [hc] using hk)
        exact ⟨c :: x, d, y, by simp [hxy], hd, by simp [hc, hx]⟩

/-- Two characters that follow each other in the ink of a text, and the blanks between them. -/
structure Seam (s : Text) where
  before : Text
  first : Char
  gap : Text
  second : Char
  after : Text
  parts : before ++ first :: (gap ++ second :: after) = s
  first_ink : isBlank first = false
  gap_blanks : Blanks gap
  second_ink : isBlank second = false

namespace Seam

def rank {s : Text} (a : Seam s) : Nat := (ink a.before).length

def left {s : Text} (a : Seam s) : Text := a.before ++ [a.first]

def right {s : Text} (a : Seam s) : Text := a.second :: a.after

private theorem ink_parts {s : Text} (a : Seam s) :
    ink s = ink a.before ++ a.first :: a.second :: ink a.after := by
  have hgap : ink a.gap = [] := ink_eq_nil.2 a.gap_blanks
  have h := congrArg ink a.parts
  rw [ink_append, ink_cons_of_ink a.first_ink, ink_append, hgap,
    ink_cons_of_ink a.second_ink, List.nil_append] at h
  exact h.symm

theorem exists_of_rank {s : Text} {k : Nat} (hk : k + 1 < (ink s).length) :
    ∃ a : Seam s, a.rank = k := by
  obtain ⟨x, c, y, rfl, hc, hx⟩ := exists_ink (Nat.lt_of_succ_lt hk)
  have hy : 0 < (ink y).length := by
    simp only [ink_append, ink_cons_of_ink hc, List.length_append, List.length_cons] at hk
    omega
  obtain ⟨g, d, z, rfl, hd, hg⟩ := exists_ink hy
  exact ⟨⟨x, c, g, d, z, rfl, hc, ink_eq_nil.1 (List.length_eq_zero_iff.1 hg), hd⟩, hx⟩

theorem rank_lt {s : Text} (a : Seam s) : a.rank + 1 < (ink s).length := by
  rw [a.ink_parts]
  simp [rank]

private theorem same_ink {s s' : Text} (h : ink s = ink s') {a : Seam s} {b : Seam s'}
    (hr : a.rank = b.rank) : a.first = b.first ∧ a.second = b.second := by
  rw [a.ink_parts, b.ink_parts] at h
  obtain ⟨-, h⟩ := List.append_inj h hr
  simp only [List.cons.injEq] at h
  exact ⟨h.1, h.2.1⟩

def extend {s : Text} (a : Seam s) (t : Text) : Seam (s ++ t) :=
  { a with after := a.after ++ t, parts := by simp [← a.parts] }

end Seam

/-- A gap stays a gap, and a new one opens only where `may` allows it: between a text that ends in ink
and one that starts with ink. -/
structure GapKept (may : Text → Text → Prop) (l g g' r : Text) : Prop where
  wide : g ≠ [] → g' ≠ []
  narrow : g = [] → g' ≠ [] → may l r

/-- The second text is the first with other blanks, where `l` stands before the first. Blanks at the
very front and at the end are free. -/
inductive Respaced (may : Text → Text → Prop) : Text → Text → Text → Prop
  | blanks {l g h : Text} : Blanks g → Blanks h → Respaced may l g h
  | ink {l g h s t : Text} {c : Char} : Blanks g → Blanks h → isBlank c = false →
      (l ≠ [] → GapKept may l g h (c :: s)) → Respaced may (l ++ g ++ [c]) s t →
      Respaced may l (g ++ c :: s) (h ++ c :: t)

namespace Respaced

variable {may : Text → Text → Prop} {l s s' : Text}

theorem ink_eq (h : Respaced may l s s') : Text.ink s = Text.ink s' := by
  induction h with
  | blanks hg hg' => rw [ink_eq_nil.2 hg, ink_eq_nil.2 hg']
  | ink hg hg' hc _ _ ih =>
    rw [ink_append, ink_append, ink_eq_nil.2 hg, ink_eq_nil.2 hg', ink_cons_of_ink hc,
      ink_cons_of_ink hc, ih]

theorem copy {u : Text} {c : Char} (hc : isBlank c = false)
    (h : Respaced may (l ++ u ++ [c]) s s') :
    Respaced may l (u ++ c :: s) (u ++ c :: s') := by
  suffices hold : ∀ (g : Text), Blanks g → ∀ l, Respaced may (l ++ g ++ u ++ [c]) s s' →
      Respaced may l (g ++ u ++ c :: s) (g ++ u ++ c :: s') by
    simpa using hold [] blanks_nil l (by simpa using h)
  clear h
  induction u with
  | nil =>
    intro g hg l h
    simp only [List.append_nil] at h ⊢
    exact .ink hg hg hc (fun _ => ⟨id, fun h h' => absurd h h'⟩) h
  | cons d u ih =>
    intro g hg l h
    by_cases hd : isBlank d = true
    · have := ih (g ++ [d]) (by simp [hg, hd]) l (by simpa using h)
      simpa using this
    · have hrest := ih [] blanks_nil (l ++ g ++ [d]) (by simpa using h)
      have hd : isBlank d = false := by simpa using hd
      rw [List.append_assoc, List.append_assoc]
      exact .ink hg hg hd (fun _ => ⟨id, fun h h' => absurd h h'⟩) hrest

theorem refl (l s : Text) : Respaced may l s s := by
  obtain ⟨g, hg, hs⟩ := exists_trimEnd_append isBlank s
  by_cases hne : trimEnd isBlank s = []
  · rw [hne, List.nil_append] at hs
    exact .blanks (hs ▸ hg) (hs ▸ hg)
  · have hlast : isBlank ((trimEnd isBlank s).getLast hne) = false :=
      Bool.eq_false_iff.2 (List.rdropWhile_last_not isBlank s hne)
    rw [← hs, ← List.dropLast_append_getLast hne]
    simpa using copy hlast (.blanks hg hg)

theorem indent {g : Text} (hg : Blanks g) (h : Respaced may [] s s') : Respaced may [] s (g ++ s') := by
  cases h with
  | blanks hb hb' => exact .blanks hb (by simp [hg, hb'])
  | ink hb hb' hc _ hrest =>
    rw [← List.append_assoc]
    exact .ink hb (by simp [hg, hb']) hc (by simp) hrest

theorem mono {may' : Text → Text → Prop} (hmay : ∀ l r, may l r → may' l r)
    (h : Respaced may l s s') : Respaced may' l s s' := by
  induction h with
  | blanks hg hh => exact .blanks hg hh
  | ink hg hh hc hgap _ ih =>
    exact .ink hg hh hc (fun hl => ⟨(hgap hl).wide, fun h h' => hmay _ _ ((hgap hl).narrow h h')⟩) ih

/-- A respaced text may be followed by a gap and another one that starts with ink, if a gap may open
there. What is allowed in the first text has to be allowed before the second. -/
theorem append {may' : Text → Text → Prop} {g h t t' : Text} {c : Char} (hs : Respaced may l s s')
    (hg : Blanks g) (hh : Blanks h) (hne : h ≠ []) (hc : isBlank c = false)
    (hmay : ∀ l r, may l r → may' l (r ++ (g ++ c :: t))) (hopen : may' (l ++ s ++ g) (c :: t))
    (hrest : Respaced may' (l ++ s ++ g ++ [c]) t t') :
    Respaced may' l (s ++ (g ++ c :: t)) (s' ++ (h ++ c :: t')) := by
  induction hs with
  | @blanks l g₀ h₀ hg₀ hh₀ =>
    rw [← List.append_assoc, ← List.append_assoc]
    refine .ink (by simp [hg₀, hg]) (by simp [hh₀, hh]) hc (fun _ => ⟨fun _ => by simp [hne], ?_⟩)
      (by simpa using hrest)
    intro he _
    simpa [List.append_assoc, he] using hopen
  | @ink l g₀ h₀ s s' d hg₀ hh₀ hd hgap hs ih =>
    rw [List.append_assoc, List.append_assoc]
    refine .ink hg₀ hh₀ hd (fun hl => ⟨(hgap hl).wide, fun h h' => ?_⟩) (ih ?_ ?_)
    · exact hmay l (d :: s) ((hgap hl).narrow h h')
    · simpa using hopen
    · simpa using hrest

private theorem head_gap {g g' : Text} {c c' : Char} (h : Respaced may l (g ++ c :: s) (g' ++ c' :: s'))
    (hl : l ≠ []) (hg : Blanks g) (hg' : Blanks g') (hc : isBlank c = false)
    (hc' : isBlank c' = false) : GapKept may l g g' (c :: s) := by
  generalize hx : g ++ c :: s = x at h
  generalize hx' : g' ++ c' :: s' = x' at h
  cases h with
  | blanks hb hb' => exact absurd (by simp [← hx]) (hb.not_mem hc)
  | ink hb hb' hd hgap hrest =>
    obtain ⟨rfl, rfl, rfl⟩ := append_ink_inj hg hb hc hd hx
    obtain ⟨rfl, -, -⟩ := append_ink_inj hg' hb' hc' hd hx'
    exact hgap hl

theorem seam (h : Respaced may l s s') (a : Seam s) (b : Seam s') (hr : a.rank = b.rank) :
    GapKept may (l ++ a.left) a.gap b.gap a.right := by
  induction h with
  | blanks hg _ => exact absurd (by simp [← a.parts]) (hg.not_mem a.first_ink)
  | @ink l g g' s s' c hg hg' hc _ h ih =>
    have hrank : ∀ {g u : Text}, Blanks g → (Text.ink (g ++ c :: u)).length = (Text.ink u).length + 1 := by
      intro g u hg
      rw [ink_append, ink_eq_nil.2 hg, ink_cons_of_ink hc]
      simp
    unfold Seam.rank at hr
    -- either seam starts at `c` or lies behind it; their ranks rule out that only one does
    rcases eq_of_append_ink hg a.first_ink a.parts.symm with ⟨ha, hf, has⟩ | ⟨u, ha, has⟩ <;>
      rcases eq_of_append_ink hg' b.first_ink b.parts.symm with ⟨hb, -, hbs⟩ | ⟨v, hb, hbs⟩
    · rw [← has, ← hbs] at h
      have := head_gap h (by simp) a.gap_blanks b.gap_blanks a.second_ink b.second_ink
      simpa [Seam.left, Seam.right, ha, hf] using this
    · rw [ha, hb, hrank hg', ink_eq_nil.2 hg] at hr
      simp at hr
    · rw [ha, hb, hrank hg, ink_eq_nil.2 hg'] at hr
      simp at hr
    · rw [ha, hb, hrank hg, hrank hg'] at hr
      have := ih ⟨u, a.first, a.gap, a.second, a.after, has.symm, a.first_ink, a.gap_blanks, a.second_ink⟩
        ⟨v, b.first, b.gap, b.second, b.after, hbs.symm, b.first_ink, b.gap_blanks, b.second_ink⟩
        (by simpa [Seam.rank] using hr)
      simpa [Seam.left, Seam.right, ha] using this

theorem infix_pair_iff {a b : Char} (h : Respaced may [] s s') (ha : isBlank a = false)
    (hb : isBlank b = false) (hno : ∀ l r, ¬ may (l ++ [a]) (b :: r)) :
    [a, b] <:+: s' ↔ [a, b] <:+: s := by
  constructor
  · rintro ⟨x, y, hxy⟩
    let there : Seam s' := ⟨x, a, [], b, y, by simp [← hxy], ha, blanks_nil, hb⟩
    obtain ⟨here, hr⟩ := Seam.exists_of_rank (h.ink_eq ▸ there.rank_lt)
    obtain ⟨hfirst, hsecond⟩ := Seam.same_ink h.ink_eq hr
    have hgap : here.gap = [] := by
      by_contra hne
      exact (h.seam here there hr).wide hne rfl
    exact ⟨here.before, here.after, by simpa [hgap, hfirst, hsecond] using here.parts⟩
  · rintro ⟨x, y, hxy⟩
    let here : Seam s := ⟨x, a, [], b, y, by simp [← hxy], ha, blanks_nil, hb⟩
    obtain ⟨there, hr⟩ := Seam.exists_of_rank (h.ink_eq ▸ here.rank_lt)
    obtain ⟨hfirst, hsecond⟩ := Seam.same_ink h.ink_eq hr.symm
    have hgap : there.gap = [] := by
      by_contra hne
      exact hno x y ((h.seam here there hr.symm).narrow rfl hne)
    exact ⟨there.before, there.after, by simpa [hgap, ← hfirst, ← hsecond] using there.parts⟩

end Respaced

end Regimen.Text
