import Regimen.Proofs.Respacing
import Regimen.Slash

/-! Spacing the slashes of a text changes no blanks but those next to a slash, and spacing a text that
has been spaced and trimmed gives the same result again. -/
namespace Regimen.Slash

open Text

def NextTo (l r : Text) : Prop := l.getLast? = some '/' ∨ r.head? = some '/'

theorem isBlank_slash : isBlank '/' = false := by decide

theorem ne_slash_of_isBlank {c : Char} (h : isBlank c = true) : c ≠ '/' := by
  rintro rfl
  rw [isBlank_slash] at h
  contradiction

@[simp] theorem spaceFrom_slash (held : Option Text) (s : Text) :
    spaceFrom held ('/' :: s) = ' ' :: '/' :: ' ' :: spaceFrom none s := by
  simp [spaceFrom, spaced]

theorem spaceFrom_blank (held : Option Text) {c : Char} (hc : isBlank c = true) (s : Text) :
    spaceFrom held (c :: s) = spaceFrom (held.map (· ++ [c])) s := by
  simp [spaceFrom, hc, ne_slash_of_isBlank hc]

theorem spaceFrom_ink (held : Option Text) {c : Char} (hc : isBlank c = false) (hs : c ≠ '/')
    (s : Text) : spaceFrom held (c :: s) = held.getD [] ++ c :: spaceFrom (some []) s := by
  simp [spaceFrom, hc, hs]

theorem cases_slash (c : Char) : c = '/' ∨ isBlank c = true ∨ (isBlank c = false ∧ c ≠ '/') := by
  by_cases hs : c = '/'
  · exact .inl hs
  · by_cases hc : isBlank c = true
    · exact .inr (.inl hc)
    · exact .inr (.inr ⟨by simpa using hc, hs⟩)

private theorem spaceFrom_append_blanks (held : Option Text) {g : Text} (hg : Blanks g) (s : Text) :
    spaceFrom held (g ++ s) = spaceFrom (held.map (· ++ g)) s := by
  induction g generalizing held with
  | nil => cases held <;> simp
  | cons c g ih =>
    rw [List.cons_append, spaceFrom_blank _ (hg c (by simp)), ih _ (blanks_cons.1 hg).2]
    cases held <;> simp

/-- Blanks that were held back, or dropped after a slash, were no part of the ink. -/
theorem respaced_spaceFrom (s : Text) :
    (∀ l g, Blanks g → Respaced NextTo l (g ++ s) (spaceFrom (some g) s)) ∧
      (∀ l g, l.getLast? = some '/' → Blanks g →
        Respaced NextTo l (g ++ s) (' ' :: spaceFrom none s)) := by
  induction s with
  | nil =>
    refine ⟨fun l g hg => ?_, fun l g _ hg => ?_⟩
    · exact .blanks (by simpa using hg) (by simpa [spaceFrom] using hg)
    · exact .blanks (by simpa using hg) (by simp [spaceFrom])
  | cons c s ih =>
    obtain ⟨ihHeld, ihNone⟩ := ih
    rcases cases_slash c with rfl | hc | ⟨hc, hs⟩
    · have hslash : ∀ l g : Text, Respaced NextTo (l ++ g ++ ['/']) s (' ' :: spaceFrom none s) := by
        intro l g
        exact ihNone _ [] (by simp) blanks_nil
      refine ⟨fun l g hg => ?_, fun l g _ hg => ?_⟩
      · rw [spaceFrom_slash]
        exact .ink (h := [' ']) hg (by simp) (by decide)
          (fun _ => ⟨fun _ => by simp, fun _ _ => .inr rfl⟩) (hslash l g)
      · rw [spaceFrom_slash]
        exact .ink (h := [' ', ' ']) hg (by simp) (by decide)
          (fun _ => ⟨fun _ => by simp, fun _ _ => .inr rfl⟩) (hslash l g)
    · refine ⟨fun l g hg => ?_, fun l g hl hg => ?_⟩
      · rw [spaceFrom_blank _ hc]
        simpa using ihHeld l (g ++ [c]) (by simp [hg, hc])
      · rw [spaceFrom_blank _ hc]
        simpa using ihNone l (g ++ [c]) hl (by simp [hg, hc])
    · have hink : ∀ l g : Text, Respaced NextTo (l ++ g ++ [c]) s (spaceFrom (some []) s) := by
        intro l g
        simpa using ihHeld (l ++ g ++ [c]) [] blanks_nil
      refine ⟨fun l g hg => ?_, fun l g hl hg => ?_⟩
      · rw [spaceFrom_ink _ hc hs]
        exact .ink hg hg hc (fun _ => ⟨id, fun h h' => absurd h h'⟩) (hink l g)
      · rw [spaceFrom_ink _ hc hs]
        exact .ink (h := [' ']) hg (by simp) hc
          (fun _ => ⟨fun _ => by simp, fun _ _ => .inl hl⟩) (hink l g)

theorem respaced_space (s : Text) : Respaced NextTo [] s (space s) := by
  exact (respaced_spaceFrom s).1 [] [] blanks_nil

theorem pair_infix_space {a b : Char} (ha : isBlank a = false) (hb : isBlank b = false) (ha' : a ≠ '/')
    (hb' : b ≠ '/') (s : Text) : [a, b] <:+: space s ↔ [a, b] <:+: s := by
  apply (respaced_space s).infix_pair_iff ha hb
  rintro l r (h | h)
  · exact ha' (by simpa using h)
  · exact hb' (by simpa using h)

private theorem mem_spaceFrom {held : Option Text} {s : Text} {c : Char} (h : c ∈ spaceFrom held s) :
    c = ' ' ∨ c ∈ held.getD [] ∨ c ∈ s := by
  induction s generalizing held with
  | nil => exact .inr (.inl h)
  | cons d s ih =>
    rcases cases_slash d with rfl | hd | ⟨hd, hs⟩
    · rw [spaceFrom_slash] at h
      simp only [List.mem_cons] at h ⊢
      rcases h with h | h | h | h
      · exact .inl h
      · exact .inr (.inr (.inl h))
      · exact .inl h
      · have := ih h
        simp only [Option.getD_none, List.not_mem_nil, false_or] at this
        exact this.imp_right fun h => .inr (.inr h)
    · rw [spaceFrom_blank _ hd] at h
      rcases ih h with h | h | h
      · exact .inl h
      · cases held with
        | none => simp at h
        | some g =>
          rcases List.mem_append.1 h with h | h
          · exact .inr (.inl h)
          · exact .inr (.inr (by simp [List.mem_singleton.1 h]))
      · exact .inr (.inr (by simp [h]))
    · rw [spaceFrom_ink _ hd hs, List.mem_append, List.mem_cons] at h
      rcases h with h | h | h
      · exact .inr (.inl h)
      · exact .inr (.inr (by simp [h]))
      · have := ih h
        simp only [Option.getD_some, List.not_mem_nil, false_or] at this
        exact this.imp_right fun h => .inr (by simp [h])

theorem mem_space {s : Text} {c : Char} (h : c ∈ space s) : c = ' ' ∨ c ∈ s := by
  simpa using mem_spaceFrom h

private theorem spaceFrom_spaceFrom (s : Text) :
    (∀ g h, Blanks h → spaceFrom (some g) (spaceFrom (some h) s) = spaceFrom (some (g ++ h)) s) ∧
      spaceFrom none (spaceFrom none s) = spaceFrom none s := by
  induction s with
  | nil =>
    refine ⟨fun g h hh => ?_, rfl⟩
    have := spaceFrom_append_blanks (some g) hh []
    simpa [spaceFrom] using this
  | cons c s ih =>
    obtain ⟨ihHeld, ihNone⟩ := ih
    rcases cases_slash c with rfl | hc | ⟨hc, hs⟩
    · refine ⟨fun g h _ => ?_, ?_⟩ <;>
        simp [spaceFrom_blank _ isBlank_space, ihNone]
    · refine ⟨fun g h hh => ?_, ?_⟩
      · rw [spaceFrom_blank _ hc, spaceFrom_blank _ hc, Option.map_some, Option.map_some,
          ihHeld g _ (by simp [hh, hc]), List.append_assoc]
      · rw [spaceFrom_blank _ hc, Option.map_none, ihNone]
    · have hrest := ihHeld [] [] blanks_nil
      refine ⟨fun g h hh => ?_, ?_⟩
      · rw [spaceFrom_ink _ hc hs, Option.getD_some, spaceFrom_append_blanks _ hh,
          spaceFrom_ink _ hc hs, spaceFrom_ink _ hc hs, hrest]
        rfl
      · rw [spaceFrom_ink _ hc hs, Option.getD_none, List.nil_append, spaceFrom_ink _ hc hs, hrest]
        rfl

theorem space_space (s : Text) : space (space s) = space s :=
  (spaceFrom_spaceFrom s).1 [] [] blanks_nil

private theorem spaceFrom_slash_blanks (held : Option Text) (s : Text) {g : Text} (hg : Blanks g) :
    spaceFrom held (s ++ '/' :: g) = spaceFrom held (s ++ ['/']) := by
  induction s generalizing held with
  | nil =>
    have := spaceFrom_append_blanks none hg []
    rw [List.append_nil] at this
    simp [this]
  | cons c s ih =>
    rw [List.cons_append, List.cons_append]
    rcases cases_slash c with rfl | hc | ⟨hc, hs⟩
    · rw [spaceFrom_slash, spaceFrom_slash, ih]
    · rw [spaceFrom_blank _ hc, spaceFrom_blank _ hc, ih]
    · rw [spaceFrom_ink _ hc hs, spaceFrom_ink _ hc hs, ih]

theorem spaceFrom_concat (held : Option Text) (s : Text) {c : Char} (hc : isBlank c = false) :
    ∃ t, spaceFrom held (s ++ [c]) = t ++ c :: if c = '/' then [' '] else [] := by
  induction s generalizing held with
  | nil =>
    by_cases hs : c = '/'
    · exact ⟨[' '], by simp [hs, spaceFrom]⟩
    · exact ⟨held.getD [], by simp [spaceFrom_ink _ hc hs, hs, spaceFrom]⟩
  | cons d s ih =>
    rw [List.cons_append]
    rcases cases_slash d with rfl | hd | ⟨hd, hs⟩
    · obtain ⟨t, ht⟩ := ih none
      exact ⟨' ' :: '/' :: ' ' :: t, by rw [spaceFrom_slash, ht]; rfl⟩
    · obtain ⟨t, ht⟩ := ih (held.map (· ++ [d]))
      exact ⟨t, by rw [spaceFrom_blank _ hd, ht]⟩
    · obtain ⟨t, ht⟩ := ih (some [])
      exact ⟨held.getD [] ++ d :: t, by rw [spaceFrom_ink _ hd hs, ht]; simp⟩

private theorem space_trimStart {p : Char → Bool} (hspace : p ' ' = true) (hslash : p '/' = false)
    {c : Char} (hp : p c = false) (hc : isBlank c = false) (s : Text) :
    space (trimStart p (space (c :: s))) = space (c :: s) := by
  unfold space
  by_cases hs : c = '/'
  · subst hs
    have htrim : trimStart p (spaceFrom (some []) ('/' :: s)) = '/' :: ' ' :: spaceFrom none s := by
      simp [trimStart_cons, hspace, hslash]
    rw [htrim, spaceFrom_slash, spaceFrom_slash, spaceFrom_blank _ isBlank_space,
      Option.map_none, (spaceFrom_spaceFrom s).2]
  · have htrim : trimStart p (spaceFrom (some []) (c :: s)) = spaceFrom (some []) (c :: s) := by
      apply trimStart_of_head
      simp [spaceFrom_ink _ hc hs, hp]
    rw [htrim]
    exact space_space (c :: s)

private theorem space_trimEnd {p : Char → Bool} (hspace : p ' ' = true) {c : Char} (hc : p c = false)
    (s : Text) : space (trimEnd p (s ++ c :: if c = '/' then [' '] else [])) =
      space (s ++ c :: if c = '/' then [' '] else []) := by
  have hink : trimEnd p (s ++ [c]) = s ++ [c] := by simp [trimEnd_concat, hc]
  by_cases hs : c = '/'
  · subst hs
    have htrim : trimEnd p (s ++ ['/', ' ']) = s ++ ['/'] := by
      have := trimEnd_append_of_forall (g := [' ']) (by simpa using hspace) (s ++ ['/'])
      rw [hink] at this
      simpa using this
    rw [if_pos rfl, htrim]
    exact (spaceFrom_slash_blanks _ _ (by simp)).symm
  · rw [if_neg hs, hink]

theorem space_trimBy {p : Char → Bool} (hblank : ∀ c, isBlank c = true → p c = true)
    (hslash : p '/' = false) {s : Text} (h : Tight p s) :
    space (trimBy p (space s)) = space s := by
  have hink : ∀ c, p c = false → isBlank c = false := by
    intro c hc
    by_contra hb
    rw [hblank c (by simpa using hb)] at hc
    contradiction
  have hspace : p ' ' = true := hblank ' ' isBlank_space
  by_cases hne : s = []
  · subst hne
    rfl
  have hlast := h.last _ (List.getLast_mem_getLast? hne)
  obtain ⟨t, ht⟩ := spaceFrom_concat (some []) s.dropLast (hink _ hlast)
  rw [List.dropLast_append_getLast hne] at ht
  have hstart : trimStart p (space s) = trimStart p t ++ s.getLast hne ::
      if s.getLast hne = '/' then [' '] else [] := by
    unfold space
    rw [ht, trimStart_append_cons hlast]
  calc space (trimBy p (space s)) = space (trimStart p (space s)) := by
        unfold trimBy
        rw [hstart, space_trimEnd hspace hlast]
    _ = space s := by
        obtain ⟨c, u, rfl⟩ := List.exists_cons_of_ne_nil hne
        have hc := h.head c rfl
        exact space_trimStart hspace hslash hc (hink c hc) u

theorem slashes_apart (s : Text) : ¬ ['/', '/'] <:+: space s := by
  suffices h : ∀ held : Option Text, Blanks (held.getD []) → ¬ ['/', '/'] <:+: spaceFrom held s from
    h (some []) blanks_nil
  induction s with
  | nil =>
    intro held hb h
    exact hb.not_mem isBlank_slash (h.subset (by simp))
  | cons c s ih =>
    intro held hb
    rcases cases_slash c with rfl | hc | ⟨hc, hs⟩
    · rw [spaceFrom_slash]
      have := ih none (by simp)
      simpa [List.infix_cons_iff] using this
    · rw [spaceFrom_blank _ hc]
      apply ih
      cases held with
      | none => simp
      | some g => simpa [hc] using hb
    · have hg : '/' ∉ held.getD [] ++ [c] := by
        intro hmem
        rcases List.mem_append.1 hmem with hmem | hmem
        · exact hb.not_mem isBlank_slash hmem
        · exact hs (List.mem_singleton.1 hmem).symm
      have := (pair_infix_append_left hg (spaceFrom (some []) s)).not.2 (ih (some []) blanks_nil)
      rw [spaceFrom_ink _ hc hs]
      simpa using this

end Regimen.Slash
