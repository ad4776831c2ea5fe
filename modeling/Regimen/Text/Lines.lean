import Regimen.Text.Blank

/-! A text as lines: the pieces between line feeds, and their reunion. -/
namespace Regimen.Text

/-- The pieces between the characters of a class; there is always at least one. -/
def splitWhere (p : Char → Bool) : Text → List Text
  | [] => [[]]
  | c :: s => if p c then [] :: splitWhere p s else (splitWhere p s).modifyHead (c :: ·)

theorem splitWhere_ne_nil (p : Char → Bool) (s : Text) : splitWhere p s ≠ [] := by
  induction s with
  | nil => simp [splitWhere]
  | cons c s ih => by_cases h : p c = true <;> simp [splitWhere, h, List.modifyHead_eq_nil_iff, ih]

theorem length_splitWhere (p : Char → Bool) (s : Text) : (splitWhere p s).length = s.countP p + 1 := by
  induction s with
  | nil => rfl
  | cons c s ih => by_cases h : p c = true <;> simp [splitWhere, h, ih]

def pieces (s : Text) : List Text := splitWhere (· == '\n') s

theorem pieces_ne_nil (s : Text) : pieces s ≠ [] := splitWhere_ne_nil _ s

@[simp] theorem pieces_newline_cons (s : Text) : pieces ('\n' :: s) = [] :: pieces s := by
  simp [pieces, splitWhere]

theorem pieces_cons {c : Char} (h : c ≠ '\n') (s : Text) :
    pieces (c :: s) = (pieces s).modifyHead (c :: ·) := by
  simp [pieces, splitWhere, h]

@[simp] theorem length_pieces (s : Text) : (pieces s).length = s.count '\n' + 1 :=
  length_splitWhere _ s

def lastPiece (s : Text) : Text := (pieces s).getLast (pieces_ne_nil s)

def joinLines (lines : List Text) : Text := List.intercalate ['\n'] lines

@[simp] theorem joinLines_singleton (l : Text) : joinLines [l] = l := List.intercalate_singleton

theorem joinLines_cons {l : Text} {ls : List Text} (h : ls ≠ []) :
    joinLines (l :: ls) = l ++ '\n' :: joinLines ls := by
  simp [joinLines, List.intercalate_cons_of_ne_nil h]

theorem joinLines_append {ls ms : List Text} (hl : ls ≠ []) (hm : ms ≠ []) :
    joinLines (ls ++ ms) = joinLines ls ++ '\n' :: joinLines ms := by
  induction ls with
  | nil => contradiction
  | cons l ls ih =>
    by_cases h : ls = []
    · simp [h, joinLines_cons hm]
    · rw [List.cons_append, joinLines_cons (List.append_ne_nil_of_left_ne_nil h ms), ih h,
        joinLines_cons h, List.append_assoc, List.cons_append]

theorem joinLines_modifyHead_cons (c : Char) {ls : List Text} (h : ls ≠ []) :
    joinLines (ls.modifyHead (c :: ·)) = c :: joinLines ls := by
  obtain ⟨l, rest, rfl⟩ := List.exists_cons_of_ne_nil h
  cases rest with
  | nil => simp
  | cons m rest => simp [joinLines_cons]

@[simp] theorem joinLines_pieces (s : Text) : joinLines (pieces s) = s := by
  induction s with
  | nil => rfl
  | cons c s ih =>
    by_cases h : c = '\n'
    · rw [h, pieces_newline_cons, joinLines_cons (pieces_ne_nil s), ih, List.nil_append]
    · rw [pieces_cons h, joinLines_modifyHead_cons c (pieces_ne_nil s), ih]

theorem pieces_append_newline (s t : Text) : pieces (s ++ '\n' :: t) = pieces s ++ pieces t := by
  induction s with
  | nil => exact pieces_newline_cons t
  | cons c s ih =>
    by_cases h : c = '\n'
    · rw [h, List.cons_append, pieces_newline_cons, pieces_newline_cons, ih, List.cons_append]
    · obtain ⟨l, ls, hs⟩ := List.exists_cons_of_ne_nil (pieces_ne_nil s)
      rw [List.cons_append, pieces_cons h, pieces_cons h, ih, hs, List.cons_append, List.modifyHead_cons,
        List.modifyHead_cons, List.cons_append]

theorem pieces_of_not_mem {l : Text} (h : '\n' ∉ l) : pieces l = [l] := by
  induction l with
  | nil => rfl
  | cons c l ih =>
    obtain ⟨hc, hl⟩ : '\n' ≠ c ∧ '\n' ∉ l := by simpa using h
    rw [pieces_cons (Ne.symm hc), ih hl, List.modifyHead_cons]

theorem pieces_joinLines {ls : List Text} (hne : ls ≠ []) (h : ∀ l ∈ ls, '\n' ∉ l) :
    pieces (joinLines ls) = ls := by
  induction ls with
  | nil => contradiction
  | cons l ls ih =>
    have hl : '\n' ∉ l := h l (by simp)
    by_cases hls : ls = []
    · simp [hls, pieces_of_not_mem hl]
    · rw [joinLines_cons hls, pieces_append_newline, pieces_of_not_mem hl,
        ih hls fun m hm => h m (by simp [hm]), List.singleton_append]

def dropReturn (s : Text) : Text := if s.getLast? = some '\r' then s.dropLast else s

end Regimen.Text
