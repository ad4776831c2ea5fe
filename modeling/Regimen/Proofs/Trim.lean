import Mathlib.Data.List.DropRight
import Regimen.Document

/-! Trimming recovers a text from anything that surrounds it with characters of the trimmed class. The
content of a line is therefore the same however the line is indented or terminated. -/
namespace Regimen.Text

/-- Neither end of the text lies in the class. -/
structure Tight (p : Char → Bool) (s : Text) : Prop where
  head : ∀ c ∈ s.head?, p c = false
  last : ∀ c ∈ s.getLast?, p c = false

theorem Tight.mono {p q : Char → Bool} {s : Text} (h : Tight p s)
    (hq : ∀ c, q c = true → p c = true) : Tight q s := by
  have hpq : ∀ c, p c = false → q c = false := by
    intro c hc
    by_contra hn
    have := hq c (by simpa using hn)
    simp_all
  exact ⟨fun c hc => hpq c (h.head c hc), fun c hc => hpq c (h.last c hc)⟩

theorem Tight.head_of_append {p : Char → Bool} {l r s : Text} (hs : Tight p s) (h : l ++ r = s) :
    ∀ c ∈ l.head?, p c = false := by
  intro c hc
  apply hs.head c
  rw [← h, List.head?_append, hc]
  rfl

theorem Tight.last_of_append {p : Char → Bool} {l r s : Text} (hs : Tight p s) (h : l ++ r = s) :
    ∀ c ∈ r.getLast?, p c = false := by
  intro c hc
  apply hs.last c
  rw [← h, List.getLast?_append, hc]
  rfl

private theorem trimEnd_eq_rdropWhile (p : Char → Bool) (s : Text) : trimEnd p s = s.rdropWhile p := rfl

private theorem trimStart_append_of_forall {p : Char → Bool} {g : Text} (hg : ∀ c ∈ g, p c = true)
    (s : Text) : trimStart p (g ++ s) = trimStart p s :=
  List.dropWhile_append_of_pos hg

theorem trimEnd_append_of_forall {p : Char → Bool} {g : Text} (hg : ∀ c ∈ g, p c = true)
    (s : Text) : trimEnd p (s ++ g) = trimEnd p s := by
  unfold trimEnd
  rw [List.reverse_append, List.dropWhile_append_of_pos]
  intro c hc
  exact hg c (List.mem_reverse.1 hc)

theorem trimStart_of_head {p : Char → Bool} {s : Text} (h : ∀ c ∈ s.head?, p c = false) :
    trimStart p s = s := by
  cases s with
  | nil => rfl
  | cons c s => simp [trimStart_cons, h c rfl]

theorem trimStart_append_cons {p : Char → Bool} {c : Char} (hc : p c = false) (s t : Text) :
    trimStart p (s ++ c :: t) = trimStart p s ++ c :: t := by
  induction s with
  | nil => simp [trimStart_cons, hc]
  | cons d s ih => by_cases hd : p d = true <;> simp [trimStart_cons, hd, ih]

theorem trimEnd_append_cons {p : Char → Bool} {c : Char} (hc : p c = false) (s t : Text) :
    trimEnd p (s ++ c :: t) = s ++ c :: trimEnd p t := by
  have hreverse : (s ++ c :: t).reverse = t.reverse ++ c :: s.reverse := by simp
  have hstart := trimStart_append_cons hc t.reverse s.reverse
  unfold trimStart at hstart
  unfold trimEnd
  rw [hreverse, hstart]
  simp

theorem trimEnd_of_forall {p : Char → Bool} {g : Text} (hg : ∀ c ∈ g, p c = true) : trimEnd p g = [] := by
  simpa using trimEnd_append_of_forall hg []

theorem trimEnd_of_last {p : Char → Bool} {s : Text} (h : ∀ c ∈ s.getLast?, p c = false) :
    trimEnd p s = s := by
  rw [trimEnd_eq_rdropWhile, List.rdropWhile_eq_self_iff]
  intro hs
  simp [h _ (List.getLast_mem_getLast? hs)]

theorem exists_trimEnd_append (p : Char → Bool) (s : Text) :
    ∃ g, (∀ c ∈ g, p c = true) ∧ trimEnd p s ++ g = s :=
  ⟨s.rtakeWhile p, fun _ hc => List.mem_rtakeWhile_imp hc, List.rdropWhile_append_rtakeWhile⟩

theorem exists_append_trimStart (p : Char → Bool) (s : Text) :
    ∃ g, (∀ c ∈ g, p c = true) ∧ g ++ trimStart p s = s :=
  ⟨s.takeWhile p, fun _ hc => List.mem_takeWhile_imp hc, List.takeWhile_append_dropWhile⟩

theorem exists_margins (p : Char → Bool) (s : Text) : ∃ g g' : Text,
    (∀ c ∈ g, p c = true) ∧ (∀ c ∈ g', p c = true) ∧ g ++ trimBy p s ++ g' = s := by
  obtain ⟨g, hg, hstart⟩ := exists_append_trimStart p s
  obtain ⟨g', hg', hend⟩ := exists_trimEnd_append p (trimStart p s)
  refine ⟨g, g', hg, hg', ?_⟩
  unfold trimBy
  rw [List.append_assoc, hend, hstart]

theorem exists_trimBy_append {p : Char → Bool} {s : Text} (h : ∀ c ∈ s.head?, p c = false) :
    ∃ g, (∀ c ∈ g, p c = true) ∧ trimBy p s ++ g = s := by
  unfold trimBy
  rw [trimStart_of_head h]
  exact exists_trimEnd_append p s

theorem exists_append_trimBy {p : Char → Bool} {s : Text} (h : ∀ c ∈ s.getLast?, p c = false) :
    ∃ g, (∀ c ∈ g, p c = true) ∧ g ++ trimBy p s = s := by
  obtain ⟨g, hg, hs⟩ := exists_append_trimStart p s
  have hlast : ∀ c ∈ (trimStart p s).getLast?, p c = false := by
    intro c hc
    apply h c
    rw [← hs, List.getLast?_append, hc]
    rfl
  refine ⟨g, hg, ?_⟩
  unfold trimBy
  rw [trimEnd_of_last hlast, hs]

theorem tight_trimBy (p : Char → Bool) (s : Text) : Tight p (trimBy p s) := by
  have hlast : ∀ c ∈ (trimBy p s).getLast?, p c = false := by
    intro c hc
    obtain ⟨hne, rfl⟩ := List.mem_getLast?_eq_getLast hc
    exact Bool.eq_false_iff.2 (List.rdropWhile_last_not p (trimStart p s) hne)
  refine ⟨fun c hc => ?_, hlast⟩
  have hpre : trimBy p s <+: trimStart p s := List.rdropWhile_prefix p _
  have hhead : (trimStart p s).head? = some c := by
    obtain ⟨u, hu⟩ := hpre
    rw [← hu, List.head?_append, hc]
    rfl
  have hnot := List.head?_dropWhile_not p s
  unfold trimStart at hhead
  rw [hhead] at hnot
  simpa using hnot

theorem tight_trim (s : Text) : Tight isBlank (trim s) := tight_trimBy isBlank s

theorem trimBy_of_tight {p : Char → Bool} {g s g' : Text} (hg : ∀ c ∈ g, p c = true)
    (hs : Tight p s) (hg' : ∀ c ∈ g', p c = true) : trimBy p (g ++ s ++ g') = s := by
  unfold trimBy
  rw [List.append_assoc, trimStart_append_of_forall hg]
  by_cases h : s = []
  · subst h
    have hall : trimStart p g' = [] := List.dropWhile_eq_nil_iff.2 hg'
    simp [hall]
  · obtain ⟨c, t, rfl⟩ := List.exists_cons_of_ne_nil h
    have hhead : ∀ d ∈ (c :: t ++ g').head?, p d = false := by
      intro d hd
      exact hs.head d (by simpa using hd)
    rw [trimStart_of_head hhead, trimEnd_append_of_forall hg', trimEnd_of_last hs.last]

theorem Tight.trimBy_eq {p : Char → Bool} {s : Text} (h : Tight p s) : trimBy p s = s := by
  simpa using @trimBy_of_tight p [] s [] (by simp) h (by simp)

theorem trimBy_between {p : Char → Bool} {g g' : Text} (hg : ∀ c ∈ g, p c = true)
    (hg' : ∀ c ∈ g', p c = true) (s : Text) : trimBy p (g ++ s ++ g') = trimBy p s := by
  obtain ⟨a, b, ha, hb, hab⟩ := exists_margins p s
  have hsplit : g ++ s ++ g' = (g ++ a) ++ trimBy p s ++ (b ++ g') := by
    nth_rewrite 1 [← hab]
    simp
  rw [hsplit]
  refine trimBy_of_tight ?_ (tight_trimBy p s) ?_
  · intro c hc
    exact (List.mem_append.1 hc).elim (hg c) (ha c)
  · intro c hc
    exact (List.mem_append.1 hc).elim (hb c) (hg' c)

theorem trimBy_trimStart (p : Char → Bool) (s : Text) : trimBy p (trimStart p s) = trimBy p s := by
  unfold trimBy trimStart
  rw [List.dropWhile_idempotent]

theorem pair_infix_append_left {a b : Char} {g : Text} (hg : a ∉ g) (s : Text) :
    [a, b] <:+: g ++ s ↔ [a, b] <:+: s := by
  induction g with
  | nil => rfl
  | cons c g ih =>
    obtain ⟨hc, hg⟩ : a ≠ c ∧ a ∉ g := by simpa using hg
    rw [List.cons_append, List.infix_cons_iff, ih hg]
    simp [hc]

theorem pair_infix_append_right {a b : Char} {g : Text} (hg : b ∉ g) (s : Text) :
    [a, b] <:+: s ++ g ↔ [a, b] <:+: s := by
  rw [← List.reverse_infix, ← @List.reverse_infix _ [a, b] s, List.reverse_append]
  exact pair_infix_append_left (by simpa using hg) s.reverse

theorem pair_infix_trimBy {p : Char → Bool} {a b : Char} (ha : p a = false) (hb : p b = false)
    (s : Text) : [a, b] <:+: trimBy p s ↔ [a, b] <:+: s := by
  obtain ⟨g, g', hg, hg', hs⟩ := exists_margins p s
  have hag : a ∉ g := fun h => by simp [hg a h] at ha
  have hbg : b ∉ g' := fun h => by simp [hg' b h] at hb
  nth_rewrite 2 [← hs]
  rw [pair_infix_append_right hbg, pair_infix_append_left hag]

end Regimen.Text
