import Mathlib.Data.String.Basic
import Regimen.Proofs.Marks

/-! The division of a line is exact. The marks that a line has decide its kind, and its parts are the line
itself, cut before the first opening mark and behind the mark that closes the block. The cuts can also be
made by byte offsets: all of them lie between two characters. -/
namespace Regimen

open String (utf8Len utf8Len_append utf8Len_cons)

namespace Text

/-- What stands between two byte offsets of a text. There is no result if the offsets are in the wrong
order, or if one of them lies beyond the end of the text or within a character. -/
def slice? (i j : Nat) (s : Text) : Option Text :=
  if i ≤ j ∧ String.Pos.Raw.IsValid (String.ofList s) ⟨i⟩ ∧ String.Pos.Raw.IsValid (String.ofList s) ⟨j⟩
  then some (String.Pos.Raw.extract (String.ofList s) ⟨i⟩ ⟨j⟩).toList
  else none

private theorem isValid_utf8Len (l r : Text) :
    String.Pos.Raw.IsValid (String.ofList (l ++ r)) ⟨utf8Len l⟩ := by
  rw [String.Pos.Raw.isValid_iff_exists_append]
  exact ⟨String.ofList l, String.ofList r, String.ofList_append, (String.rawEndPos_ofList l).symm⟩

private theorem slice?_append {i j : Nat} {l m : Text} (r : Text) (hi : i = utf8Len l)
    (hj : j = i + utf8Len m) : slice? i j (l ++ (m ++ r)) = some m := by
  have hstart : String.Pos.Raw.IsValid (String.ofList (l ++ (m ++ r))) ⟨i⟩ := by
    rw [hi]
    exact isValid_utf8Len l (m ++ r)
  have hstop : String.Pos.Raw.IsValid (String.ofList (l ++ (m ++ r))) ⟨j⟩ := by
    rw [hj, hi, ← List.append_assoc, ← utf8Len_append]
    exact isValid_utf8Len (l ++ m) r
  unfold slice?
  rw [if_pos ⟨by omega, hstart, hstop⟩, hj, hi, ← List.append_assoc, String.extract_of_valid,
    String.toList_ofList]

private theorem slice?_left (l r : Text) : slice? 0 (utf8Len l) (l ++ r) = some l := by
  simpa using slice?_append (l := []) (m := l) r rfl rfl

private theorem slice?_right (l r : Text) :
    slice? (utf8Len l) (utf8Len (l ++ r)) (l ++ r) = some r := by
  simpa using slice?_append (l := l) (m := r) [] rfl (utf8Len_append l r)

def offset? (pattern s : Text) : Option Nat := (cut? pattern s).map fun r => utf8Len r.1

private theorem offset?_of_firstAt {pattern l r : Text} (h : FirstAt pattern l r) :
    offset? pattern (l ++ r) = some (utf8Len l) := by
  unfold offset?
  rw [cut?_eq_some.2 ⟨rfl, h⟩]
  rfl

private theorem offset?_of_absent {pattern s : Text} (h : ¬ pattern <:+: s) :
    offset? pattern s = none := by
  unfold offset?
  rw [cut?_eq_none.2 h]
  rfl

end Text

namespace Block

open Text

/-- Divides a line by byte offsets. There is no result if a part starts or ends beyond the line or within
a character. -/
def divideAt? (s : Text) : Option Division :=
  match offset? openMark s with
  | none => some .none
  | some start => do
    let before ← slice? 0 start s
    let rest ← slice? (start + 1) (utf8Len s) s
    match offset? closeMark rest with
    | some offset =>
      let stop := start + 1 + offset + utf8Len closeMark
      let block ← slice? start stop s
      let after ← slice? stop (utf8Len s) s
      return .single (trim before) block (trim after)
    | none =>
      let block ← slice? start (utf8Len s) s
      return if has closeMark before then .single (trim before) block [] else .opening (trim before) block

private theorem utf8Size_brace : '{'.utf8Size = 1 := by decide

private theorem slice?_behind_brace (l r : Text) :
    slice? (utf8Len l + 1) (utf8Len (l ++ '{' :: r)) (l ++ '{' :: r) = some r := by
  have h := slice?_right (l ++ ['{']) r
  simpa [utf8Size_brace] using h

private theorem divideAt?_of_divided {s : Text} {d : Division} (h : Divided s d) :
    divideAt? s = some d := by
  unfold divideAt?
  cases h with
  | none hno => rw [offset?_of_absent hno]
  | @closed l inner r hopen hclose =>
    have hrest : offset? closeMark (inner ++ closeMark ++ r) = some (utf8Len inner) := by
      rw [List.append_assoc]
      exact offset?_of_firstAt hclose
    have hstop : utf8Len l + 1 + utf8Len inner + utf8Len closeMark =
        utf8Len (l ++ '{' :: (inner ++ closeMark)) := by
      rw [utf8Len_append, utf8Len_cons, utf8Len_append, utf8Size_brace]
      omega
    have hblock : slice? (utf8Len l) (utf8Len (l ++ '{' :: (inner ++ closeMark)))
        (l ++ '{' :: (inner ++ closeMark ++ r)) = some ('{' :: (inner ++ closeMark)) :=
      slice?_append r rfl (utf8Len_append l _)
    have hafter : slice? (utf8Len (l ++ '{' :: (inner ++ closeMark)))
        (utf8Len (l ++ '{' :: (inner ++ closeMark ++ r))) (l ++ '{' :: (inner ++ closeMark ++ r)) = some r := by
      simpa using slice?_right (l ++ '{' :: (inner ++ closeMark)) r
    rw [offset?_of_firstAt hopen]
    simp only [slice?_left, slice?_behind_brace, Option.bind_eq_bind, Option.bind_some, hrest, hstop,
      hblock, hafter]
    rfl
  | @early l r hopen hr hl =>
    rw [offset?_of_firstAt hopen]
    simp only [slice?_left, slice?_behind_brace, slice?_right, Option.bind_eq_bind, Option.bind_some,
      offset?_of_absent hr, has_iff.2 hl]
    rfl
  | @opening l r hopen hr hl =>
    rw [offset?_of_firstAt hopen]
    simp only [slice?_left, slice?_behind_brace, slice?_right, Option.bind_eq_bind, Option.bind_some,
      offset?_of_absent hr, has_eq_false.2 hl]
    rfl

def ClosedOnce (block : Text) : Prop :=
  closeMark <:+ block ∧ ∀ u v, u ++ closeMark ++ v = block → v = []

private theorem closedOnce_of_firstAt {inner r : Text} (h : FirstAt closeMark inner (closeMark ++ r)) :
    ClosedOnce ('{' :: (inner ++ closeMark)) := by
  refine ⟨⟨'{' :: inner, rfl⟩, fun u v huv => ?_⟩
  cases u with
  | nil => simp [closeMark] at huv
  | cons c u =>
    rw [List.cons_append, List.cons_append, List.cons.injEq] at huv
    have hle := h.2 u (closeMark ++ v ++ r) (by rw [← List.append_assoc, ← List.append_assoc, huv.2]; simp)
      (by simp)
    have hlen := congrArg List.length huv.2
    simp only [List.length_append] at hlen
    exact List.length_eq_zero_iff.1 (by omega)

private theorem Divided.parts_of_opening {s before block : Text}
    (h : Divided s (.opening before block)) :
    ∃ p, s = p ++ block ∧ FirstAt openMark p block ∧ before = trim p := by
  cases h with
  | opening hopen hr hl => exact ⟨_, rfl, hopen, rfl⟩

private theorem Divided.parts_of_single {s before block after : Text}
    (h : Divided s (.single before block after)) : ∃ p q, s = p ++ block ++ q ∧
      FirstAt openMark p (block ++ q) ∧ before = trim p ∧ after = trim q ∧
      (ClosedOnce block ∨ ¬ closeMark <:+: block ∧ q = [] ∧ closeMark <:+: p) := by
  cases h with
  | @closed l inner r hopen hclose =>
    exact ⟨l, r, by simp, hopen, rfl, rfl, .inl (closedOnce_of_firstAt hclose)⟩
  | @early l r hopen hr hl =>
    have hblock : ¬ closeMark <:+: '{' :: r := by
      rw [← List.nil_append ('{' :: r)]
      exact fun h => ((pair_infix_append_cons (by decide) (by decide) [] r).1 h).elim (by decide) hr
    exact ⟨l, [], by simp, by simpa using hopen, rfl, rfl, .inr ⟨hblock, rfl, hl⟩⟩

private theorem kind_divide (s : Text) :
    (divide s = .none ↔ ¬ openMark <:+: s) ∧
    ((∃ before block, divide s = .opening before block) ↔ openMark <:+: s ∧ ¬ closeMark <:+: s) ∧
    ((∃ before block after, divide s = .single before block after) ↔
      openMark <:+: s ∧ closeMark <:+: s) := by
  have hfits := fits_divide s
  cases h : divide s with
  | none =>
    have hopen : ¬ openMark <:+: s := by rwa [h] at hfits
    simp [hopen]
  | single before block after =>
    obtain ⟨hopen, hclose⟩ : openMark <:+: s ∧ closeMark <:+: s := by rwa [h] at hfits
    simp [hopen, hclose]
  | opening before block =>
    obtain ⟨hopen, hclose⟩ : openMark <:+: s ∧ ¬ closeMark <:+: s := by rwa [h] at hfits
    simp [hopen, hclose]

/-- The kind of a division tells which marks the line has, and its parts make up the line, but for the
blanks around the block. Made by byte offsets, it never fails. -/
theorem divide_exact (s : Text) :
    (divide s = .none ↔ ¬ openMark <:+: s) ∧
    ((∃ before block, divide s = .opening before block) ↔ openMark <:+: s ∧ ¬ closeMark <:+: s) ∧
    ((∃ before block after, divide s = .single before block after) ↔
      openMark <:+: s ∧ closeMark <:+: s) ∧
    (∀ before block, divide s = .opening before block →
      ∃ p, s = p ++ block ∧ FirstAt openMark p block ∧ before = trim p) ∧
    (∀ before block after, divide s = .single before block after → ∃ p q, s = p ++ block ++ q ∧
      FirstAt openMark p (block ++ q) ∧ before = trim p ∧ after = trim q ∧ ¬ openMark <:+: p ∧
      (ClosedOnce block ∨ ¬ closeMark <:+: block ∧ q = [] ∧ closeMark <:+: p)) ∧
    divideAt? s = some (divide s) := by
  have hdiv := divided_divide s
  obtain ⟨hnone, hopening, hsingle⟩ := kind_divide s
  refine ⟨hnone, hopening, hsingle, ?_, ?_, divideAt?_of_divided hdiv⟩
  · intro before block h
    rw [h] at hdiv
    exact hdiv.parts_of_opening
  · intro before block after h
    rw [h] at hdiv
    obtain ⟨p, q, hs, hfirst, hbefore, hafter, hclose⟩ := hdiv.parts_of_single
    exact ⟨p, q, hs, hfirst, hbefore, hafter, (firstAt_openMark.1 hfirst).2, hclose⟩

theorem divide_exact_shared_tilde : ∃ p q, "é ~\x7d \x7b~\x7d b".toList = p ++ "\x7b~\x7d".toList ++ q ∧
    "é ~\x7d".toList = trim p ∧ "b".toList = trim q ∧ ClosedOnce "\x7b~\x7d".toList ∧
    divideAt? "é ~\x7d \x7b~\x7d b".toList =
      some (.single "é ~\x7d".toList "\x7b~\x7d".toList "b".toList) := by
  have hdiv : divide "é ~\x7d \x7b~\x7d b".toList =
      .single "é ~\x7d".toList "\x7b~\x7d".toList "b".toList := by decide
  obtain ⟨-, -, -, -, hsingle, hbytes⟩ := divide_exact "é ~\x7d \x7b~\x7d b".toList
  obtain ⟨p, q, hs, -, hbefore, hafter, -, hclose⟩ := hsingle _ _ _ hdiv
  have honce : ClosedOnce "\x7b~\x7d".toList := by
    rcases hclose with honce | ⟨hno, -, -⟩
    · exact honce
    · exact absurd ⟨['{'], [], rfl⟩ hno
  exact ⟨p, q, hs, hbefore, hafter, honce, hbytes.trans (congrArg some hdiv)⟩

end Block
end Regimen
