import Regimen.Proofs.Editing

/-! The lines of a text as an editor shows them. A line feed ends a line, and so does a carriage return,
but one right before a line feed ends the line together with it. The span of a whole text counts line
feeds only, so it reaches the end of the text if and only if no carriage return stands alone. -/
namespace Regimen

inductive LineEnd where
  | feed
  | ret
  | retFeed
deriving DecidableEq, Repr

def LineEnd.chars : LineEnd → Text
  | feed => ['\n']
  | ret => ['\r']
  | retFeed => ['\r', '\n']

private theorem LineEnd.chars_ne_nil (e : LineEnd) : e.chars ≠ [] := by
  cases e <;> simp [chars]

structure Row where
  content : Text
  ending : LineEnd
deriving DecidableEq, Repr

def Row.whole (r : Row) : Text := r.content ++ r.ending.chars

/-- The lines that have ended, and what follows the last of them. -/
structure Rows where
  ended : List Row
  last : Text
deriving DecidableEq, Repr

namespace Rows

def cons (c : Char) : Rows → Rows
  | ⟨[], last⟩ => ⟨[], c :: last⟩
  | ⟨row :: below, last⟩ => ⟨{ row with content := c :: row.content } :: below, last⟩

def skip (e : LineEnd) (r : Rows) : Rows := ⟨⟨[], e⟩ :: r.ended, r.last⟩

def text (r : Rows) : Text := r.ended.flatMap Row.whole ++ r.last

@[simp] theorem text_cons (c : Char) (r : Rows) : (r.cons c).text = c :: r.text := by
  obtain ⟨ended, last⟩ := r
  cases ended <;> simp [cons, text, Row.whole]

@[simp] theorem text_skip (e : LineEnd) (r : Rows) : (r.skip e).text = e.chars ++ r.text := by
  simp [skip, text, Row.whole]

@[simp] theorem length_cons (c : Char) (r : Rows) : (r.cons c).ended.length = r.ended.length := by
  obtain ⟨ended, last⟩ := r
  cases ended <;> rfl

private theorem last_cons (c : Char) (r : Rows) :
    (r.cons c).last = if r.ended.length = 0 then c :: r.last else r.last := by
  obtain ⟨ended, last⟩ := r
  cases ended <;> rfl

end Rows

namespace Text

/-- Divides a text into the lines of an editor. -/
def rows : Text → Rows
  | [] => ⟨[], []⟩
  | '\r' :: '\n' :: s => (rows s).skip .retFeed
  | '\r' :: s => (rows s).skip .ret
  | '\n' :: s => (rows s).skip .feed
  | c :: s => (rows s).cons c

theorem text_rows (t : Text) : t.rows.text = t := by
  fun_induction rows t with
  | case1 => rfl
  | case2 s ih => rw [Rows.text_skip, ih]; rfl
  | case3 s _ ih => rw [Rows.text_skip, ih]; rfl
  | case4 s ih => rw [Rows.text_skip, ih]; rfl
  | case5 c s _ _ _ ih => rw [Rows.text_cons, ih]

def loneReturns : Text → Nat
  | [] => 0
  | c :: s => loneReturns s + if c = '\r' ∧ s.head? ≠ some '\n' then 1 else 0

/-- Every carriage return stands before a line feed. -/
def Paired (t : Text) : Prop := ∀ l r, l ++ '\r' :: r = t → r.head? = some '\n'

private theorem paired_cons {c : Char} {s : Text} :
    Paired (c :: s) ↔ Paired s ∧ (c = '\r' → s.head? = some '\n') := by
  constructor
  · intro h
    refine ⟨fun l r hs => h (c :: l) r (by simp [hs]), ?_⟩
    rintro rfl
    exact h [] s rfl
  · rintro ⟨hs, hc⟩ l r hlr
    cases l with
    | nil =>
      obtain ⟨rfl, rfl⟩ : '\r' = c ∧ r = s := by simpa using hlr
      exact hc rfl
    | cons d l => exact hs l r (by simpa using (List.cons.inj hlr).2)

private theorem loneReturns_eq_zero {t : Text} : loneReturns t = 0 ↔ Paired t := by
  induction t with
  | nil => simp [loneReturns, Paired]
  | cons c s ih =>
    rw [paired_cons, ← ih, loneReturns, Nat.add_eq_zero_iff]
    apply and_congr_right
    intro _
    split
    next h => simp [h]
    next h => simpa using h

private theorem head?_ne_newline {s : Text} (h : ∀ r, s = '\n' :: r → False) : s.head? ≠ some '\n' := by
  intro hhead
  obtain ⟨r, hr⟩ := List.head?_eq_some_iff.1 hhead
  exact h r hr

theorem length_rows (t : Text) : t.rows.ended.length = t.count '\n' + loneReturns t := by
  fun_induction rows t with
  | case1 => rfl
  | case2 s ih =>
    simp [Rows.skip, loneReturns, ih]
    omega
  | case3 s hs ih =>
    simp [Rows.skip, loneReturns, ih, head?_ne_newline hs]
    omega
  | case4 s ih =>
    simp [Rows.skip, loneReturns, ih]
    omega
  | case5 c s _ hret hfeed ih =>
    have hret : c ≠ '\r' := hret
    have hfeed : c ≠ '\n' := hfeed
    simp [loneReturns, ih, hret, hfeed]

private theorem lastPiece_newline (s : Text) : lastPiece ('\n' :: s) = lastPiece s := by
  unfold lastPiece
  simp only [pieces_newline_cons]
  exact List.getLast_cons (pieces_ne_nil s)

private theorem lastPiece_cons {c : Char} (hc : c ≠ '\n') (s : Text) :
    lastPiece (c :: s) = if s.count '\n' = 0 then c :: lastPiece s else lastPiece s := by
  have hlength := length_pieces s
  obtain ⟨l, ls, hs⟩ := List.exists_cons_of_ne_nil (pieces_ne_nil s)
  unfold lastPiece
  simp only [pieces_cons hc, hs, List.modifyHead_cons]
  rw [hs] at hlength
  cases ls with
  | nil =>
    have hcount : s.count '\n' = 0 := by simpa using hlength
    simp [hcount]
  | cons m ls =>
    have hcount : s.count '\n' ≠ 0 := by
      simp only [List.length_cons] at hlength
      omega
    simp [hcount]

theorem last_rows {t : Text} (h : Paired t) : t.rows.last = lastPiece t := by
  fun_induction rows t with
  | case1 => rfl
  | case2 s ih =>
    have hs : Paired s := (paired_cons.1 (paired_cons.1 h).1).1
    rw [lastPiece_cons (by decide), lastPiece_newline, if_neg (by simp)]
    exact ih hs
  | case3 s hs ih => exact absurd ((paired_cons.1 h).2 rfl) (head?_ne_newline hs)
  | case4 s ih =>
    rw [lastPiece_newline]
    exact ih (paired_cons.1 h).1
  | case5 c s _ hret hfeed ih =>
    have hs := (paired_cons.1 h).1
    rw [Rows.last_cons, lastPiece_cons hfeed, length_rows, loneReturns_eq_zero.2 hs, ih hs, Nat.add_zero]

/-- Drops so many UTF-16 units, or all of the text if it has fewer. -/
def dropUnits : Nat → Text → Text
  | 0, s => s
  | _ + 1, [] => []
  | n + 1, c :: s => dropUnits (n + 1 - unitsOf c) s

@[simp] theorem dropUnits_zero (s : Text) : dropUnits 0 s = s := by
  cases s <;> rfl

private theorem dropUnits_units (s : Text) : dropUnits (units s) s = [] := by
  induction s with
  | nil => rfl
  | cons c s ih =>
    obtain ⟨n, hn⟩ : ∃ n, units (c :: s) = n + 1 :=
      Nat.exists_eq_succ_of_ne_zero (Nat.ne_of_gt (Nat.add_pos_left (unitsOf_pos c) _))
    have hrest : n + 1 - unitsOf c = units s := by
      rw [← hn]
      exact Nat.add_sub_cancel_left ..
    rw [hn, dropUnits, hrest, ih]

end Text

namespace Rows

/-- What lies behind the given column of the given line. A column beyond the end of the line stands for
its end. -/
def behind (last : Text) (column : Nat) : List Row → Nat → Text
  | [], 0 => last.dropUnits column
  | [], _ + 1 => []
  | row :: below, 0 => row.content.dropUnits column ++ row.ending.chars ++ text ⟨below, last⟩
  | _ :: below, line + 1 => behind last column below line

private theorem behind_start (last : Text) (ended : List Row) :
    behind last 0 ended 0 = text ⟨ended, last⟩ := by
  cases ended <;> simp [behind, text, Row.whole]

private theorem behind_end (last : Text) (ended : List Row) :
    behind last (Text.units last) ended ended.length = [] := by
  induction ended with
  | nil => exact Text.dropUnits_units last
  | cons row below ih => exact ih

private theorem behind_ne_nil {ended : List Row} {line : Nat} (h : line < ended.length) (last : Text)
    (column : Nat) : behind last column ended line ≠ [] := by
  induction ended generalizing line with
  | nil => simp at h
  | cons row below ih =>
    cases line with
    | zero => simp [behind, row.ending.chars_ne_nil]
    | succ line => exact ih (Nat.lt_of_succ_lt_succ h)

end Rows

namespace Text

def behind (t : Text) (p : Position) : Text := Rows.behind t.rows.last p.character t.rows.ended p.line

private theorem endPosition_eq_iff {t : Text} (hlines : t.rows.ended.length ≤ maxIndex)
    (hunits : units t.rows.last ≤ maxIndex) :
    t.endPosition = ⟨t.rows.ended.length, units t.rows.last⟩ ↔ Paired t := by
  have hcount := length_rows t
  have hfits : clampIndex (t.count '\n') = t.count '\n' := clampIndex_of_le (by omega)
  constructor
  · intro h
    have hline : clampIndex (t.count '\n') = t.rows.ended.length := congrArg Position.line h
    exact loneReturns_eq_zero.1 (by omega)
  · intro h
    rw [last_rows h] at hunits ⊢
    rw [loneReturns_eq_zero.2 h, Nat.add_zero] at hcount
    unfold endPosition
    rw [hfits, clampIndex_of_le hunits, hcount]

/-- The span of a text starts at its front. It ends where the text ends, so that nothing lies behind it,
if and only if no carriage return stands alone. -/
theorem fullSpan_covers_iff (t : Text) (hlines : t.rows.ended.length ≤ maxIndex)
    (hunits : units t.rows.last ≤ maxIndex) :
    t.behind t.fullSpan.start = t ∧
    (t.fullSpan.stop = ⟨t.rows.ended.length, units t.rows.last⟩ ↔ Paired t) ∧
    (t.behind t.fullSpan.stop = [] ↔ Paired t) := by
  have hstop := endPosition_eq_iff hlines hunits
  refine ⟨(Rows.behind_start _ _).trans (text_rows t), hstop, fun h => ?_, fun h => ?_⟩
  · by_contra hlone
    have hcount := length_rows t
    have hpos : loneReturns t ≠ 0 := loneReturns_eq_zero.not.2 hlone
    have hline : clampIndex (t.count '\n') < t.rows.ended.length :=
      Nat.lt_of_le_of_lt (Nat.min_le_left _ _) (by omega)
    exact Rows.behind_ne_nil hline _ _ h
  · have hend : t.fullSpan.stop = ⟨t.rows.ended.length, units t.rows.last⟩ := hstop.2 h
    rw [hend]
    exact Rows.behind_end _ _

theorem fullSpan_covers_pair :
    let t : Text := "\r\na\n\r\nSquat é💪".toList
    Paired t ∧ t.fullSpan.stop = ⟨3, 9⟩ ∧ t.behind t.fullSpan.stop = [] := by
  intro t
  have hpaired : Paired t := loneReturns_eq_zero.1 (by decide)
  obtain ⟨-, hstop, hbehind⟩ := fullSpan_covers_iff t (by decide) (by decide)
  exact ⟨hpaired, hstop.2 hpaired, hbehind.2 hpaired⟩

/-- A carriage return that stands alone ends the line on which the span of the text ends, and what follows
it is left out. -/
theorem lone_return_uncovered :
    let t : Text := "a\rb".toList
    t.rows.ended.length = 1 ∧ units t.rows.last = 1 ∧ t.fullSpan.stop = ⟨0, 3⟩ ∧
      t.behind t.fullSpan.stop = ['\r', 'b'] := by
  decide

end Text
end Regimen
