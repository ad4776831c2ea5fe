import Regimen.Proofs.Contents
import Regimen.Proofs.Spacing

/-! A spaced text is made of the pieces between the slashes of the text. They lose the blanks next to a
slash and are joined by slashes with one space on each side. -/
namespace Regimen

namespace Text

private theorem splitWhere_eq_splitOnP (p : Char → Bool) (s : Text) :
    splitWhere p s = s.splitOnP p := by
  induction s with
  | nil => rfl
  | cons c s ih => rw [splitWhere, ih, List.splitOnP_cons_eq_if_modifyHead]

private theorem not_mem_of_mem_splitOn {a : Char} {s l : Text} (hl : l ∈ s.splitOn a) : a ∉ l := by
  intro h
  have hsplit : l ∈ splitWhere (· == a) s := by rwa [splitWhere_eq_splitOnP]
  simpa using not_mem_of_mem_splitWhere hsplit a h

private theorem length_splitOn (a : Char) (s : Text) : (s.splitOn a).length = s.count a + 1 := by
  have h : (splitWhere (· == a) s).length = s.count a + 1 := length_splitWhere _ s
  rwa [splitWhere_eq_splitOnP] at h

end Text

namespace Slash

open Text

/-- The rest behind a slash at the front of a text. Blanks on both sides of the slash go with it, as many
as there are. -/
def afterSlash? (s : Text) : Option Text :=
  match trimStart isBlank s with
  | '/' :: rest => some (trimStart isBlank rest)
  | _ => none

private theorem afterSlash?_eq_some {s r : Text} (h : afterSlash? s = some r) :
    ∃ g rest, Blanks g ∧ g ++ '/' :: rest = s ∧ r = trimStart isBlank rest := by
  obtain ⟨g, hg, hs⟩ := exists_append_trimStart isBlank s
  unfold afterSlash? at h
  split at h
  next rest hrest =>
    rw [hrest] at hs
    exact ⟨g, rest, hg, hs, (Option.some.inj h).symm⟩
  next => cases h

private theorem afterSlash?_eq_none {s : Text} (h : afterSlash? s = none) :
    (trimStart isBlank s).head? ≠ some '/' := by
  unfold afterSlash? at h
  split at h
  next => cases h
  next hno =>
    intro hhead
    obtain ⟨rest, hrest⟩ := List.head?_eq_some_iff.1 hhead
    exact hno rest hrest

private theorem length_afterSlash? {s r : Text} (h : afterSlash? s = some r) : r.length < s.length := by
  obtain ⟨g, rest, -, rfl, rfl⟩ := afterSlash?_eq_some h
  have hle : (trimStart isBlank rest).length ≤ rest.length := List.length_dropWhile_le ..
  rw [List.length_append, List.length_cons]
  omega

/-- Replaces the slashes of a text from left to right, each with all the blanks around it that are left.
Answers only if there is one. -/
def replaceAll? (s : Text) : Option Text :=
  match s with
  | [] => none
  | c :: s =>
    match _h : afterSlash? (c :: s) with
    | some rest => some (spaced ++ (replaceAll? rest).getD rest)
    | none => (replaceAll? s).map (c :: ·)
termination_by s.length
decreasing_by
  · exact length_afterSlash? _h
  · simp

private theorem spaceFrom_none (s : Text) : spaceFrom none s = space (trimStart isBlank s) := by
  induction s with
  | nil => rfl
  | cons c s ih =>
    rcases cases_slash c with rfl | hc | ⟨hc, hs⟩
    · simp [trimStart_cons, isBlank_slash, space]
    · rw [spaceFrom_blank _ hc, trimStart_cons, if_pos hc]
      exact ih
    · simp [trimStart_cons, hc, space, spaceFrom_ink _ hc hs]

private theorem spaceFrom_some {s : Text} (h : (trimStart isBlank s).head? ≠ some '/') (g : Text) :
    spaceFrom (some g) s = g ++ space s := by
  induction s generalizing g with
  | nil => simp [spaceFrom, space]
  | cons c s ih =>
    rcases cases_slash c with rfl | hc | ⟨hc, hs⟩
    · simp [trimStart_cons, isBlank_slash] at h
    · rw [trimStart_cons, if_pos hc] at h
      unfold space
      rw [spaceFrom_blank _ hc, spaceFrom_blank _ hc, Option.map_some, Option.map_some, ih h, ih h]
      simp
    · unfold space
      rw [spaceFrom_ink _ hc hs, spaceFrom_ink _ hc hs]
      simp

private theorem space_append_slash {s : Text} (h : '/' ∉ s) (r : Text) :
    space (s ++ '/' :: r) = trimEnd isBlank s ++ spaced ++ space (trimStart isBlank r) := by
  suffices hheld : ∀ g, Blanks g → spaceFrom (some g) (s ++ '/' :: r) =
      trimEnd isBlank (g ++ s) ++ spaced ++ space (trimStart isBlank r) from hheld [] blanks_nil
  induction s with
  | nil =>
    intro g hg
    rw [List.nil_append, List.append_nil, trimEnd_of_forall hg, spaceFrom_slash, spaceFrom_none]
    rfl
  | cons c s ih =>
    obtain ⟨hc, hs⟩ : '/' ≠ c ∧ '/' ∉ s := by simpa using h
    intro g hg
    by_cases hb : isBlank c = true
    · rw [List.cons_append, spaceFrom_blank _ hb, Option.map_some, ih hs _ (by simp [hg, hb])]
      simp
    · have hb : isBlank c = false := by simpa using hb
      rw [List.cons_append, spaceFrom_ink _ hb (Ne.symm hc), ih hs [] blanks_nil, trimEnd_append_cons hb]
      simp

private theorem space_blanks_slash {g : Text} (hg : Blanks g) (s : Text) :
    space (g ++ '/' :: s) = spaced ++ space (trimStart isBlank s) := by
  rw [space_append_slash (hg.not_mem isBlank_slash), trimEnd_of_forall hg, List.nil_append]

private theorem space_cons {c : Char} {s : Text} (h : afterSlash? (c :: s) = none) :
    c ≠ '/' ∧ space (c :: s) = c :: space s := by
  have hhead := afterSlash?_eq_none h
  rcases cases_slash c with rfl | hc | ⟨hc, hs⟩
  · simp [trimStart_cons, isBlank_slash] at hhead
  · rw [trimStart_cons, if_pos hc] at hhead
    refine ⟨ne_slash_of_isBlank hc, ?_⟩
    unfold space
    rw [spaceFrom_blank _ hc]
    exact spaceFrom_some hhead [c]
  · refine ⟨hs, ?_⟩
    unfold space
    rw [spaceFrom_ink _ hc hs]
    rfl

private theorem replaceAll?_eq_space? (s : Text) : replaceAll? s = space? s := by
  fun_induction replaceAll? s with
  | case1 => rfl
  | case2 c s rest h ih =>
    obtain ⟨g, s', hg, hs, rfl⟩ := afterSlash?_eq_some h
    rw [ih, getD_space?, ← space_blanks_slash hg, hs, space?, if_pos (by simp [← hs])]
  | case3 c s h ih =>
    obtain ⟨hc, hspace⟩ := space_cons h
    rw [ih, space?, space?, hspace]
    by_cases hmem : '/' ∈ s <;> simp [hmem, hc.symm]

/-- The piece with the given index, of pieces up to the last index, without the blanks next to a slash. -/
def tidy (last i : Nat) (piece : Text) : Text :=
  let piece := if 0 < i then trimStart isBlank piece else piece
  if i < last then trimEnd isBlank piece else piece

private theorem trimStart_intercalate (p : Text) (ps : List Text) :
    trimStart isBlank (List.intercalate ['/'] (p :: ps)) =
      List.intercalate ['/'] (trimStart isBlank p :: ps) := by
  cases ps with
  | nil => simp
  | cons q ps =>
    rw [List.intercalate_cons_cons, List.intercalate_cons_cons, List.append_assoc, List.append_assoc]
    exact trimStart_append_cons isBlank_slash _ _

private theorem mapIdx_tidy (p : Text) (ps : List Text) :
    (trimStart isBlank p :: ps).mapIdx (tidy ps.length) =
      (p :: ps).mapIdx fun i => tidy (ps.length + 1) (i + 1) := by
  have hlater : ∀ i, tidy ps.length (i + 1) = tidy (ps.length + 1) (i + 1 + 1) := by
    intro i
    funext q
    simp [tidy]
  rw [List.mapIdx_cons, List.mapIdx_cons, funext hlater]
  simp [tidy]

private theorem space_intercalate {p : Text} {ps : List Text} (h : ∀ q ∈ p :: ps, '/' ∉ q) :
    space (List.intercalate ['/'] (p :: ps)) = spaced.intercalate ((p :: ps).mapIdx (tidy ps.length)) := by
  induction ps generalizing p with
  | nil =>
    rw [List.intercalate_singleton, space_of_not_mem (h p (by simp))]
    simp [tidy]
  | cons q ps ih =>
    have hrest : ∀ r ∈ trimStart isBlank q :: ps, '/' ∉ r := by
      intro r hr
      rcases List.mem_cons.1 hr with rfl | hr
      · exact fun hmem => h q (by simp) ((List.dropWhile_sublist _).subset hmem)
      · exact h r (by simp [hr])
    have hspaced : spaced.intercalate ((p :: q :: ps).mapIdx (tidy (q :: ps).length)) =
        trimEnd isBlank p ++ spaced ++
          spaced.intercalate ((q :: ps).mapIdx fun i => tidy (ps.length + 1) (i + 1)) := by
      rw [List.mapIdx_cons, List.mapIdx_cons, List.intercalate_cons_cons]
      simp [tidy]
    rw [List.intercalate_cons_cons, List.append_assoc, List.singleton_append,
      space_append_slash (h p (by simp)), trimStart_intercalate, ih hrest, mapIdx_tidy, hspaced]

/-- A text is spaced by joining its tidied pieces, or as well by replacing its slashes one after the other.
It stays as it is if and only if it has no slash, and spacing it again makes no difference. -/
theorem space_joins_pieces (s : Text) :
    space s = spaced.intercalate ((s.splitOn '/').mapIdx (tidy (s.count '/'))) ∧
    (space? s).getD s = space s ∧ space? s = replaceAll? s ∧ (space? s = none ↔ '/' ∉ s) ∧
    space (space s) = space s := by
  refine ⟨?_, getD_space? s, (replaceAll?_eq_space? s).symm, by simp [space?], space_space s⟩
  have hpieces : ∀ p ∈ s.splitOn '/', '/' ∉ p := fun p hp => not_mem_of_mem_splitOn hp
  have hlength : (s.splitOn '/').length = s.count '/' + 1 := length_splitOn '/' s
  have hjoin : List.intercalate ['/'] (s.splitOn '/') = s := List.intercalate_splitOn '/'
  generalize s.splitOn '/' = ps at hpieces hlength hjoin ⊢
  cases ps with
  | nil => simp at hlength
  | cons p ps =>
    have hspace := space_intercalate hpieces
    rwa [hjoin, Nat.succ.inj hlength] at hspace

end Slash
end Regimen
