import Mathlib.Algebra.Ring.Int.Defs
import Mathlib.Algebra.Ring.Nat
import Mathlib.Order.Bounds.Defs
import Regimen.Proofs.Words

/-! The depth of the braces in the block that is open. It walks up and down with the lines of code, but
never below zero, so after any number of them it is the largest sum that their last steps have. -/
namespace Regimen

open Text

namespace Line

/-- Opens a block that does not end on the same line. -/
def opens (l : Line) : Bool :=
  l.role.isBody && has Block.openMark l.content && !has Block.closeMark l.content

def closes (l : Line) : Bool := l.role.isBody && has Block.closeMark l.content

private theorem not_opens_and_closes (l : Line) : ¬ (l.opens = true ∧ l.closes = true) := by
  unfold opens closes
  cases has Block.closeMark l.content <;> simp

/-- Comments in a block are no code. -/
def isCode (l : Line) : Bool := l.role.isBody && !commentMark.isPrefixOf l.content

def turn (l : Line) : Int :=
  if l.content.head? = some '}' then -1
  else if l.content.getLast? = some '{' ∧ '}' ∉ l.content then 1
  else 0

end Line

def turns (ls : List Line) : List Int := (ls.filter Line.isCode).map Line.turn

private theorem turns_concat (ls : List Line) (l : Line) :
    turns (ls ++ [l]) = if l.isCode then turns ls ++ [l.turn] else turns ls := by
  unfold turns
  cases hcode : l.isCode <;> simp [List.filter_append, hcode]

/-- The sums of the steps that are left when the first ones are dropped. -/
def suffixSums (ds : List Int) : Set Int := {m | ∃ k ≤ ds.length, m = (ds.drop k).sum}

private theorem isGreatest_suffixSums_nil : IsGreatest (suffixSums []) 0 := by
  refine ⟨⟨0, Nat.le_refl 0, rfl⟩, ?_⟩
  rintro m ⟨k, hk, rfl⟩
  simp

/-- A walk that is stopped at zero. -/
theorem isGreatest_suffixSums_concat {ds : List Int} {m : Int} (d : Int)
    (h : IsGreatest (suffixSums ds) m) : IsGreatest (suffixSums (ds ++ [d])) (max 0 (m + d)) := by
  have hdrop : ∀ k ≤ ds.length, ((ds ++ [d]).drop k).sum = (ds.drop k).sum + d := by
    intro k hk
    rw [List.drop_append_of_le_length hk]
    simp
  constructor
  · by_cases hm : 0 ≤ m + d
    · obtain ⟨k, hk, hsum⟩ := h.1
      refine ⟨k, by simp; omega, ?_⟩
      rw [hdrop k hk, ← hsum]
      omega
    · refine ⟨ds.length + 1, by simp, ?_⟩
      rw [List.drop_eq_nil_of_le (by simp), List.sum_nil]
      omega
  · rintro n ⟨k, hk, rfl⟩
    by_cases hle : k ≤ ds.length
    · have hbound := h.2 ⟨k, hle, rfl⟩
      rw [hdrop k hle]
      omega
    · rw [List.drop_eq_nil_of_le (by simp; omega), List.sum_nil]
      omega

/-- The block that is open after some lines, from the line that opened it: the first that opens one
after the last that closes one. It is empty if no block is open. -/
def openBlock (ls : List Line) : List Line :=
  (ls.rtakeWhile fun l => !l.closes).dropWhile fun l => !l.opens

private theorem openBlock_concat (ls : List Line) (l : Line) :
    openBlock (ls ++ [l]) = if l.closes then [] else if openBlock ls = [] then
      (if l.opens then [l] else []) else openBlock ls ++ [l] := by
  unfold openBlock
  rw [List.rtakeWhile_concat]
  cases hcloses : l.closes with
  | true => simp
  | false =>
    simp only [Bool.not_false, if_true, Bool.false_eq_true, if_false, List.dropWhile_append,
      List.isEmpty_iff]
    cases hopens : l.opens <;> simp [hopens]

namespace Layout

private theorem inBlock_eq_opens_or (w : Nat) (c : Context) (l : Line) :
    (formatLine w c l).1.inBlock = (l.opens || c.inBlock && !l.closes) := by
  rw [inBlock_formatLine]
  unfold Line.isMarked Line.opens Line.closes
  cases l.role.isBody <;> cases has Block.openMark l.content <;>
    cases has Block.closeMark l.content <;> simp

private theorem depth_outside (w : Nat) {c : Context} (h : c.inBlock = false) (l : Line) :
    (formatLine w c l).1.depth = if l.opens then 0 else c.depth := by
  unfold Line.opens
  cases hrole : l.role with
  | blank => simp [formatLine_of_blank w c hrole, Role.isBody]
  | heading level => simp [context_of_heading w c hrole, Role.isBody]
  | comment | other =>
    rw [context_of_isBody w c (by rw [hrole]; rfl), context_placeBody, h]
    simp only [Bool.false_eq_true, if_false, Role.isBody, Bool.true_and]
    split <;> rfl

private theorem depthOf_turn (c : Context) (l : Line) : ((c.depthOf l.content +
    if l.content.getLast? = some '{' ∧ '}' ∉ l.content then 1 else 0 : Nat) : Int) =
      max 0 (c.depth + l.turn) := by
  unfold Context.depthOf Line.turn
  by_cases hhead : l.content.head? = some '}'
  · have hmem : '}' ∈ l.content := List.mem_of_mem_head? hhead
    rw [if_pos hhead, if_pos hhead, if_neg (fun h => h.2 hmem)]
    omega
  · rw [if_neg hhead, if_neg hhead]
    split <;> omega

private theorem depth_inside (w : Nat) {c : Context} (h : c.inBlock = true) (l : Line) :
    ((formatLine w c l).1.depth : Int) =
      if l.closes then 0 else if l.isCode then max 0 (c.depth + l.turn) else c.depth := by
  unfold Line.closes Line.isCode
  cases hrole : l.role with
  | blank => simp [formatLine_of_blank w c hrole, Role.isBody]
  | heading level => simp [context_of_heading w c hrole, Role.isBody]
  | comment | other =>
    rw [context_of_isBody w c (by rw [hrole]; rfl), h]
    simp only [if_true, Role.isBody, Bool.true_and]
    cases hclose : has Block.closeMark l.content with
    | true => simp [placeCode_of_close c hclose, Context.exitBlock]
    | false =>
      cases hcomment : commentMark.isPrefixOf l.content with
      | true => simp [placeCode_of_comment c hclose hcomment]
      | false =>
        rw [placeCode_of_code c hclose hcomment]
        simpa using depthOf_turn c l

/-- What the context says about the block that is open. -/
inductive Tracks (c : Context) : List Line → Prop
  | outside : c.inBlock = false → c.depth = 0 → Tracks c []
  | inside {first : Line} {inner : List Line} : c.inBlock = true →
      IsGreatest (suffixSums (turns inner)) c.depth → Tracks c (first :: inner)

theorem Tracks.depth_eq_zero {c : Context} {block : List Line} (h : Tracks c block)
    (hout : c.inBlock = false) : c.depth = 0 := by
  cases h with
  | outside _ hzero => exact hzero
  | inside hin _ => rw [hin] at hout; contradiction

private theorem tracks_formatLine (w : Nat) {c : Context} {ls : List Line} (h : Tracks c (openBlock ls))
    (l : Line) : Tracks (formatLine w c l).1 (openBlock (ls ++ [l])) := by
  have hblock := inBlock_eq_opens_or w c l
  rw [openBlock_concat]
  generalize openBlock ls = block at h ⊢
  cases h with
  | outside hout hzero =>
    have hdepth := depth_outside w hout l
    cases hopens : l.opens with
    | false =>
      rw [hout, hopens] at hblock
      rw [hopens, hzero] at hdepth
      simpa using Tracks.outside hblock hdepth
    | true =>
      have hcloses : l.closes = false := by simpa [hopens] using l.not_opens_and_closes
      rw [hopens] at hblock hdepth
      rw [hcloses]
      refine .inside hblock ?_
      rw [hdepth]
      exact isGreatest_suffixSums_nil
  | @inside first inner hin hmax =>
    have hdepth := depth_inside w hin l
    cases hcloses : l.closes with
    | true =>
      have hopens : l.opens = false := by simpa [hcloses] using l.not_opens_and_closes
      rw [hopens, hcloses, Bool.not_true, Bool.and_false] at hblock
      rw [hcloses] at hdepth
      exact .outside hblock (by simpa using hdepth)
    | false =>
      rw [hin, hcloses, Bool.not_false, Bool.and_true, Bool.or_true] at hblock
      rw [hcloses, if_neg Bool.false_ne_true] at hdepth
      rw [if_neg Bool.false_ne_true, if_neg (List.cons_ne_nil first inner), List.cons_append]
      refine .inside hblock ?_
      rw [turns_concat, hdepth]
      cases hcode : l.isCode with
      | false => simpa using hmax
      | true => simpa using isGreatest_suffixSums_concat l.turn hmax

theorem tracks_formatAll (w : Nat) (ls : List Line) : Tracks (formatAll w {} ls).1 (openBlock ls) := by
  induction ls using List.reverseRecOn with
  | nil => exact .outside rfl rfl
  | append_singleton ls l ih =>
    rw [formatAll_concat]
    exact tracks_formatLine w ih l

private theorem depth_formatLine_le (w : Nat) (c : Context) (l : Line) :
    (formatLine w c l).1.depth ≤ c.depth + 1 :=
  (place_le c l).1.trans (Nat.succ_le_succ (c.depthOf_le l.content))

private theorem depth_formatAll_le (w : Nat) (ls : List Line) :
    (formatAll w {} ls).1.depth ≤ ls.length := by
  induction ls using List.reverseRecOn with
  | nil => exact Nat.le_refl 0
  | append_singleton ls l ih =>
    have hstep := depth_formatLine_le w (formatAll w {} ls).1 l
    rw [formatAll_concat, List.length_append, List.length_singleton]
    omega

/-- Outside a block the depth is zero. Inside, it is the largest sum of last steps over the lines of code
after the one that opened the block. In fewer than `2 ^ 64 - 1` lines it never grows beyond a word, so that
a word keeps it exactly. -/
theorem depth_formatAll (w : Nat) (ls : List Line) :
    ((formatAll w {} ls).1.inBlock = false → (formatAll w {} ls).1.depth = 0) ∧
    ((formatAll w {} ls).1.inBlock = true → ∃ first inner, openBlock ls = first :: inner ∧
      IsGreatest (suffixSums (turns inner)) ((formatAll w {} ls).1.depth : Int)) ∧
    (formatAll w {} ls).1.depth ≤ ls.length ∧
    (ls.length < 2 ^ 64 - 1 → (∀ before l after, ls = before ++ l :: after →
      (formatAll w {} before).1.depthOf l.content + 1 < 2 ^ 64) ∧
      ({} : Scan).formatAll w ls = (.ofContext (formatAll w {} ls).1, (formatAll w {} ls).2)) := by
  have htracks := tracks_formatAll w ls
  generalize openBlock ls = block at htracks ⊢
  refine ⟨?_, ?_, depth_formatAll_le w ls, ?_⟩
  · intro hout
    cases htracks with
    | outside _ hzero => exact hzero
    | inside hin _ => rw [hin] at hout; contradiction
  · intro hin
    cases htracks with
    | outside hout _ => rw [hout] at hin; contradiction
    | @inside first inner _ hmax => exact ⟨first, inner, rfl, hmax⟩
  · intro hlen
    constructor
    · rintro before l after rfl
      have hbefore := depth_formatAll_le w before
      have hwritten := (formatAll w {} before).1.depthOf_le l.content
      rw [List.length_append, List.length_cons] at hlen
      omega
    · have hroom : ({} : Context).depth + ls.length < UInt64.size := by
        change 0 + ls.length < 2 ^ 64
        omega
      exact Scan.formatAll_of_fits w (by decide) (Context.fitsAll_of_lt hroom)

theorem depth_formatAll_stray_brace :
    (formatAll 4 {} (Document.ofText "\x7b~\n\x7d\nif (a) \x7b".toList).lines).1 = ⟨true, 1, false⟩ ∧
      IsGreatest (suffixSums [-1, 1]) 1 := by
  have hcontext : (formatAll 4 {} (Document.ofText "\x7b~\n\x7d\nif (a) \x7b".toList).lines).1 =
      ⟨true, 1, false⟩ := by decide
  obtain ⟨first, inner, hblock, hmax⟩ := (depth_formatAll 4 _).2.1 (congrArg Context.inBlock hcontext)
  have hinner : turns inner = [-1, 1] := by
    have htail := congrArg (fun block => turns block.tail) hblock
    exact htail.symm.trans (by decide)
  rw [hinner, hcontext] at hmax
  exact ⟨hcontext, hmax⟩

end Layout
end Regimen
