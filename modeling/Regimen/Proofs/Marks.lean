import Regimen.Block
import Regimen.Proofs.Trim

/-! Where the marks of a block stand on a line. The division of a line is told by first occurrences,
without reference to the search that finds them. -/
namespace Regimen.Text

theorem has_eq_false {pattern s : Text} : has pattern s = false ↔ ¬ pattern <:+: s := by
  rw [← has_iff, Bool.not_eq_true]

theorem pair_infix_append_cons {a b d : Char} (ha : a ≠ d) (hb : b ≠ d) (l r : Text) :
    [a, b] <:+: l ++ d :: r ↔ [a, b] <:+: l ∨ [a, b] <:+: r := by
  induction l with
  | nil =>
    rw [List.nil_append, List.infix_cons_iff]
    simp [ha]
  | cons c l ih =>
    have hfront : [a, b] <+: c :: (l ++ d :: r) ↔ [a, b] <+: c :: l := by
      cases l with
      | nil => simp [hb]
      | cons e l => simp
    rw [List.cons_append, List.infix_cons_iff, ih, hfront, List.infix_cons_iff, or_assoc]

/-- The pattern stands at the front of `r`, and nowhere earlier in `l ++ r`. -/
def FirstAt (pattern l r : Text) : Prop :=
  pattern <+: r ∧ ∀ u v, u ++ v = l ++ r → pattern <+: v → l.length ≤ u.length

private theorem firstAt_of_cut? {pattern s l r : Text} (h : cut? pattern s = some (l, r)) :
    FirstAt pattern l r := by
  refine ⟨(append_of_cut? h).2, ?_⟩
  induction s generalizing l with
  | nil =>
    simp only [cut?] at h
    split at h
    · cases h
      simp
    · cases h
  | cons c s ih =>
    simp only [cut?] at h
    split at h
    next => cases h; simp
    next hp =>
      obtain ⟨⟨x, y⟩, hr, he⟩ := Option.map_eq_some_iff.1 h
      cases he
      intro u v huv hv
      cases u with
      | nil =>
        have hs := (append_of_cut? hr).1
        rw [List.nil_append, List.cons_append, hs] at huv
        exact absurd (List.isPrefixOf_iff_prefix.2 (huv ▸ hv)) hp
      | cons d u =>
        simp only [List.cons_append, List.cons.injEq] at huv
        exact Nat.succ_le_succ (ih hr u v huv.2 hv)

theorem cut?_eq_some {pattern s l r : Text} :
    cut? pattern s = some (l, r) ↔ l ++ r = s ∧ FirstAt pattern l r := by
  refine ⟨fun h => ⟨(append_of_cut? h).1, firstAt_of_cut? h⟩, ?_⟩
  rintro ⟨rfl, hpre, hmin⟩
  have hsome : has pattern (l ++ r) = true :=
    has_iff.2 (hpre.isInfix.trans (List.suffix_append l r).isInfix)
  obtain ⟨⟨x, y⟩, hxy⟩ := Option.isSome_iff_exists.1 hsome
  obtain ⟨hs, hy⟩ := append_of_cut? hxy
  have hle := (firstAt_of_cut? hxy).2 l r hs.symm hpre
  have hge := hmin x y hs hy
  obtain ⟨rfl, rfl⟩ := List.append_inj hs (Nat.le_antisymm hle hge)
  exact hxy

theorem cut?_eq_none {pattern s : Text} : cut? pattern s = none ↔ ¬ pattern <:+: s := by
  rw [← has_iff, has, Bool.not_eq_true, Option.isSome_eq_false_iff, Option.isNone_iff_eq_none]

private theorem firstAt_pair {a b : Char} (hab : a ≠ b) {l r : Text} :
    FirstAt [a, b] l r ↔ [a, b] <+: r ∧ ¬ [a, b] <:+: l := by
  refine and_congr_right fun hr => ⟨fun hmin hin => ?_, fun hl u v huv hv => ?_⟩
  · obtain ⟨x, y, rfl⟩ := hin
    have := hmin x ([a, b] ++ y ++ r) (by simp) (by simp)
    simp only [List.length_append, List.length_cons] at this
    omega
  · by_contra hlt
    obtain ⟨w, rfl⟩ : u <+: l :=
      List.prefix_of_prefix_length_le (huv ▸ List.prefix_append u v) (List.prefix_append l r) (by omega)
    rw [List.append_assoc] at huv
    have hv' : v = w ++ r := List.append_cancel_left huv
    obtain ⟨z, rfl⟩ := hr
    obtain ⟨z', hz'⟩ := hv
    rw [hv'] at hz'
    match w with
    | [] => simp at hlt
    | [c] =>
      simp only [List.cons_append, List.nil_append, List.cons.injEq] at hz'
      exact hab hz'.2.1.symm
    | c :: d :: w =>
      simp only [List.cons_append, List.nil_append, List.cons.injEq] at hz'
      obtain ⟨rfl, rfl, -⟩ := hz'
      exact hl ⟨u, w, by simp⟩

end Regimen.Text

namespace Regimen.Block

open Text

theorem firstAt_openMark {l r : Text} :
    FirstAt openMark l r ↔ openMark <+: r ∧ ¬ openMark <:+: l :=
  firstAt_pair (by decide)

theorem firstAt_closeMark {l r : Text} :
    FirstAt closeMark l r ↔ closeMark <+: r ∧ ¬ closeMark <:+: l :=
  firstAt_pair (by decide)

/-- How the marks of a line divide it. A block is closed by the first closing mark after its brace, or
kept on its line by a closing mark before it. -/
inductive Divided : Text → Division → Prop
  | none {s : Text} : ¬ openMark <:+: s → Divided s .none
  | closed {l inner r : Text} : FirstAt openMark l ('{' :: (inner ++ closeMark ++ r)) →
      FirstAt closeMark inner (closeMark ++ r) →
      Divided (l ++ '{' :: (inner ++ closeMark ++ r))
        (.single (trim l) ('{' :: (inner ++ closeMark)) (trim r))
  | early {l r : Text} : FirstAt openMark l ('{' :: r) → ¬ closeMark <:+: r → closeMark <:+: l →
      Divided (l ++ '{' :: r) (.single (trim l) ('{' :: r) [])
  | opening {l r : Text} : FirstAt openMark l ('{' :: r) → ¬ closeMark <:+: r → ¬ closeMark <:+: l →
      Divided (l ++ '{' :: r) (.opening (trim l) ('{' :: r))

theorem divided_divide (s : Text) : Divided s (divide s) := by
  unfold divide
  split
  next hcut => exact .none (cut?_eq_none.1 hcut)
  next l rest hcut =>
    obtain ⟨rfl, hopen⟩ := cut?_eq_some.1 hcut
    obtain ⟨r, rfl⟩ : ∃ r, rest = '{' :: r := by
      obtain ⟨z, hz⟩ := hopen.1
      exact ⟨'~' :: z, hz.symm⟩
    cases hclose : cut? closeMark r with
    | none =>
      have hr := cut?_eq_none.1 hclose
      simp only [close?, hclose, Option.map_none]
      by_cases hl : has closeMark l = true
      · rw [if_pos hl]
        exact .early hopen hr (has_iff.1 hl)
      · rw [if_neg hl]
        exact .opening hopen hr (has_iff.not.1 hl)
    | some found =>
      obtain ⟨inner, after⟩ := found
      obtain ⟨rfl, hfirst⟩ := cut?_eq_some.1 hclose
      obtain ⟨z, rfl⟩ := hfirst.1
      have hdrop : (closeMark ++ z).drop closeMark.length = z := List.drop_left
      simp only [close?, hclose, Option.map_some, hdrop]
      rw [← List.append_assoc] at hopen ⊢
      exact .closed hopen hfirst

def Division.Fits (s : Text) : Division → Prop
  | .none => ¬ openMark <:+: s
  | .single _ _ _ => openMark <:+: s ∧ closeMark <:+: s
  | .opening _ _ => openMark <:+: s ∧ ¬ closeMark <:+: s

/-- No mark is lost where a line is divided: a closing mark cannot lie across the brace of the block. -/
theorem Divided.fits {s : Text} {d : Division} (h : Divided s d) : d.Fits s := by
  have hopens : ∀ {l r : Text}, FirstAt openMark l r → openMark <:+: l ++ r :=
    fun hopen => hopen.1.isInfix.trans (List.suffix_append _ _).isInfix
  cases h with
  | none hno => exact hno
  | @closed l inner r hopen hclose => exact ⟨hopens hopen, l ++ '{' :: inner, r, by simp⟩
  | @early l r hopen hr hl =>
    exact ⟨hopens hopen, (pair_infix_append_cons (by decide) (by decide) l r).2 (.inl hl)⟩
  | @opening l r hopen hr hl =>
    refine ⟨hopens hopen, fun h => ?_⟩
    exact ((pair_infix_append_cons (by decide) (by decide) l r).1 h).elim hl hr

theorem fits_divide (s : Text) : (divide s).Fits s := (divided_divide s).fits

theorem divide_eq {s : Text} {d : Division} (h : Divided s d) : divide s = d := by
  unfold divide
  cases h with
  | none hno => rw [cut?_eq_none.2 hno]
  | @closed l inner r hopen hclose =>
    have hdrop : (closeMark ++ r).drop closeMark.length = r := List.drop_left
    have hcut : cut? closeMark (inner ++ closeMark ++ r) = some (inner, closeMark ++ r) :=
      cut?_eq_some.2 ⟨by simp, hclose⟩
    rw [cut?_eq_some.2 ⟨rfl, hopen⟩]
    simp only [close?, hcut, Option.map_some, hdrop]
  | early hopen hr hl =>
    rw [cut?_eq_some.2 ⟨rfl, hopen⟩]
    simp only [close?, cut?_eq_none.2 hr, Option.map_none, has_iff.2 hl, if_true]
  | opening hopen hr hl =>
    rw [cut?_eq_some.2 ⟨rfl, hopen⟩]
    simp only [close?, cut?_eq_none.2 hr, Option.map_none, has_iff.not.2 hl]
    rfl

end Regimen.Block
