import Mathlib.Data.List.Induction
import Regimen.Proofs.Placing

/-! Lines placed one after another. A line tells the next one whether it stands in a block and whether
it stands below a subheading; each of the two is decided by the last line that has a say in it. -/
namespace Regimen

open Text

/-- The body is made of the lines that are neither blank nor headings. -/
def Role.isBody : Role → Bool
  | .comment | .other => true
  | .blank | .heading _ => false

def Role.isHeading : Role → Bool
  | .heading _ => true
  | _ => false

theorem Role.isHeading_iff {r : Role} : r.isHeading = true ↔ ∃ level, r = .heading level := by
  cases r <;> simp [Role.isHeading]

/-- A line of the body on which a block is opened or closed. -/
def Line.isMarked (l : Line) : Bool :=
  l.role.isBody && (has Block.openMark l.content || has Block.closeMark l.content)

namespace Layout

/-- Formats lines one by one, each in the context that the one before it leaves. -/
def formatAll (width : Nat) (c : Context) : List Line → Context × List Text
  | [] => (c, [])
  | l :: rest =>
    let (c, out) := formatLine width c l
    let (c, outs) := formatAll width c rest
    (c, out :: outs)

theorem formatAll_eq_placeAll (w : Nat) (c : Context) (ls : List Line) :
    formatAll w c ls = ((placeAll c (ls.map Line.content)).1,
      (placeAll c (ls.map Line.content)).2.map (Placed.render w)) := by
  induction ls generalizing c with
  | nil => rfl
  | cons l ls ih => simp only [formatAll, formatLine, placeAll, List.map_cons, ih]

theorem format_eq_formatAll (w : Nat) (t : Text) :
    format w t = joinLines (formatAll w {} (Document.ofText t).lines).2 := by
  rw [formatAll_eq_placeAll]
  rfl

theorem formatAll_cons (w : Nat) (c : Context) (l : Line) (ls : List Line) :
    formatAll w c (l :: ls) = ((formatAll w (formatLine w c l).1 ls).1,
      (formatLine w c l).2 :: (formatAll w (formatLine w c l).1 ls).2) := rfl

theorem formatAll_append (w : Nat) (c : Context) (ls ms : List Line) :
    formatAll w c (ls ++ ms) = ((formatAll w (formatAll w c ls).1 ms).1,
      (formatAll w c ls).2 ++ (formatAll w (formatAll w c ls).1 ms).2) := by
  simp only [formatAll_eq_placeAll, List.map_append, placeAll_append]

theorem formatAll_concat (w : Nat) (c : Context) (ls : List Line) (l : Line) :
    (formatAll w c (ls ++ [l])).1 = (formatLine w (formatAll w c ls).1 l).1 := by
  rw [formatAll_append]
  rfl

theorem place_of_isBody (c : Context) {l : Line} (h : l.role.isBody = true) : place c l.content =
    if c.inBlock then placeCode c l.content else placeBody c l.content := by
  unfold place
  change Role.isBody (Role.ofContent l.content) = true at h
  cases hrole : Role.ofContent l.content with
  | blank => simp [hrole, Role.isBody] at h
  | heading level => simp [hrole, Role.isBody] at h
  | comment => rfl
  | other => rfl

theorem context_of_isBody (w : Nat) (c : Context) {l : Line} (h : l.role.isBody = true) :
    (formatLine w c l).1 =
      if c.inBlock then (placeCode c l.content).1 else (placeBody c l.content).1 := by
  have hplace : (formatLine w c l).1 = (place c l.content).1 := rfl
  rw [hplace, place_of_isBody c h, apply_ite Prod.fst]

theorem place_of_heading (c : Context) {l : Line} {level : Nat} (h : l.role = .heading level) :
    place c l.content = ({ c with underSubheading := decide (2 ≤ level) },
      ⟨if 2 ≤ level then 1 else 0, l.content⟩) := by
  unfold place
  change Role.ofContent l.content = .heading level at h
  rw [h]
  by_cases hlevel : 2 ≤ level <;> simp [hlevel]

theorem place_of_blank (c : Context) {l : Line} (h : l.role = .blank) : place c l.content = (c, ⟨0, []⟩) := by
  unfold place
  change Role.ofContent l.content = .blank at h
  rw [h]

theorem formatLine_of_heading (w : Nat) (c : Context) {l : Line} {level : Nat}
    (h : l.role = .heading level) :
    formatLine w c l = ({ c with underSubheading := decide (2 ≤ level) },
      Placed.render w ⟨if 2 ≤ level then 1 else 0, l.content⟩) := by
  unfold formatLine
  rw [place_of_heading c h]

theorem context_of_heading (w : Nat) (c : Context) {l : Line} {level : Nat}
    (h : l.role = .heading level) :
    (formatLine w c l).1 = { c with underSubheading := decide (2 ≤ level) } := by
  rw [formatLine_of_heading w c h]

theorem formatLine_of_blank (w : Nat) (c : Context) {l : Line} (h : l.role = .blank) :
    formatLine w c l = (c, []) := by
  unfold formatLine
  rw [place_of_blank c h]
  simp [Placed.render]

theorem context_placeBody (c : Context) (s : Text) :
    (placeBody c s).1 = if has Block.openMark s && !has Block.closeMark s then c.enterBlock else c := by
  have hfits := Block.fits_divide s
  unfold placeBody
  cases hdiv : Block.divide s with
  | none =>
    rw [hdiv] at hfits
    simp [has_eq_false.2 hfits]
  | single before block after =>
    rw [hdiv] at hfits
    simp [has_iff.2 hfits.2]
  | opening before block =>
    rw [hdiv] at hfits
    simp [has_iff.2 hfits.1, has_eq_false.2 hfits.2]

/-- The depth at which a line of code is written: a brace that closes at its front already counts. -/
def Context.depthOf (c : Context) (s : Text) : Nat :=
  if s.head? = some '}' then c.depth - 1 else c.depth

theorem placeCode_of_close (c : Context) {s : Text} (h : has Block.closeMark s = true) :
    placeCode c s = (c.exitBlock, ⟨c.bodyUnits, s⟩) := by
  unfold placeCode
  rw [if_pos h]

theorem placeCode_of_comment (c : Context) {s : Text} (h : has Block.closeMark s = false)
    (hcomment : commentMark.isPrefixOf s = true) : placeCode c s = (c, ⟨c.bodyUnits, s⟩) := by
  unfold placeCode
  rw [h, if_neg Bool.false_ne_true, if_pos hcomment]

theorem placeCode_of_code (c : Context) {s : Text} (h : has Block.closeMark s = false)
    (hcode : commentMark.isPrefixOf s = false) : placeCode c s =
      ({ c with depth := c.depthOf s + if s.getLast? = some '{' ∧ '}' ∉ s then 1 else 0 },
        ⟨c.bodyUnits + (c.depthOf s + 1), s⟩) := by
  unfold placeCode Context.depthOf
  rw [h, hcode, if_neg Bool.false_ne_true, if_neg Bool.false_ne_true]
  dsimp only
  split <;> split <;> rfl

private theorem flags_placeCode (c : Context) (s : Text) :
    (placeCode c s).1.inBlock = (c.inBlock && !has Block.closeMark s) ∧
      (placeCode c s).1.underSubheading = c.underSubheading := by
  cases hclose : has Block.closeMark s with
  | true =>
    rw [placeCode_of_close c hclose]
    simp [Context.exitBlock]
  | false =>
    cases hcomment : commentMark.isPrefixOf s with
    | true => simp [placeCode_of_comment c hclose hcomment]
    | false => simp [placeCode_of_code c hclose hcomment]

theorem inBlock_formatLine (w : Nat) (c : Context) (l : Line) :
    (formatLine w c l).1.inBlock = if l.isMarked then
      has Block.openMark l.content && !has Block.closeMark l.content else c.inBlock := by
  cases hbody : l.role.isBody with
  | false =>
    cases hrole : l.role with
    | blank => simp [formatLine_of_blank w c hrole, Line.isMarked, hbody]
    | heading level => simp [context_of_heading w c hrole, Line.isMarked, hbody]
    | comment => simp [hrole, Role.isBody] at hbody
    | other => simp [hrole, Role.isBody] at hbody
  | true =>
    rw [context_of_isBody w c hbody, context_placeBody]
    cases hblock : c.inBlock <;> cases hopen : has Block.openMark l.content <;>
      cases hclose : has Block.closeMark l.content <;>
      simp [Line.isMarked, flags_placeCode, Context.enterBlock, *]

private theorem underSubheading_formatLine (w : Nat) (c : Context) (l : Line) :
    (formatLine w c l).1.underSubheading =
      if l.role.isHeading then l.role.isSubheading else c.underSubheading := by
  cases hrole : l.role with
  | blank => simp [formatLine_of_blank w c hrole, Role.isHeading]
  | heading level => simp [context_of_heading w c hrole, Role.isHeading, Role.isSubheading]
  | comment | other =>
    rw [context_of_isBody w c (by rw [hrole]; rfl), context_placeBody]
    split
    · simp [flags_placeCode, Role.isHeading]
    · split <;> simp [Context.enterBlock, Role.isHeading]

private theorem flag_formatAll {w : Nat} {flag : Context → Bool} {sets value : Line → Bool}
    (start : flag {} = false)
    (step : ∀ c l, flag (formatLine w c l).1 = if sets l then value l else flag c) (ls : List Line) :
    flag (formatAll w {} ls).1 = true ↔ ∃ l ∈ (ls.filter sets).getLast?, value l = true := by
  induction ls using List.reverseRecOn with
  | nil => simp [formatAll, start]
  | append_singleton ls l ih =>
    rw [formatAll_concat, step, List.filter_append]
    cases hsets : sets l <;> simp [hsets, ih]

/-- A block is open after some lines if and only if, of the lines of the body with a mark on them, the
last has an opening mark and no closing mark. -/
theorem flags_formatAll (w : Nat) (ls : List Line) :
    ((formatAll w {} ls).1.inBlock = true ↔ ∃ l ∈ (ls.filter Line.isMarked).getLast?,
      has Block.openMark l.content = true ∧ has Block.closeMark l.content = false) ∧
    ((formatAll w {} ls).1.underSubheading = true ↔
      ∃ l ∈ (ls.filter (·.role.isHeading)).getLast?, ∃ level ≥ 2, l.role = .heading level) ∧
    (∀ l : Line, l.role.isBody = true → has Block.openMark l.content = true →
      has Block.closeMark l.content = true → (formatAll w {} (ls ++ [l])).1.inBlock = false) ∧
    ∀ l : Line, l.role.isBody = false →
      (formatAll w {} (ls ++ [l])).1.inBlock = (formatAll w {} ls).1.inBlock := by
  refine ⟨?_, ?_, ?_, ?_⟩
  · rw [flag_formatAll rfl (inBlock_formatLine w)]
    simp
  · rw [flag_formatAll rfl (underSubheading_formatLine w)]
    apply exists_congr
    intro l
    apply and_congr_right
    intro _
    cases l.role <;> simp [Role.isSubheading]
  · intro l hbody hopen hclose
    rw [formatAll_concat, inBlock_formatLine]
    simp [Line.isMarked, hbody, hopen, hclose]
  · intro l hbody
    rw [formatAll_concat, inBlock_formatLine]
    simp [Line.isMarked, hbody]

end Layout
end Regimen
