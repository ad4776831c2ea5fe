import Regimen.Proofs.Words

/-! Code with matching braces. Under `n` open braces a line is indented by `n + 1` units beyond the body,
and where the code ends the context is what it was before, provided that the depth does not outgrow its
word on the way. -/
namespace Regimen

open Text

structure Line.IsOpener (l : Line) : Prop where
  role : l.role = .other
  ends : l.content.getLast? = some '{'
  unclosed : '}' ∉ l.content

structure Line.IsCloser (l : Line) : Prop where
  starts : l.content.head? = some '}'
  stays : has Block.closeMark l.content = false

structure Line.IsPlain (l : Line) : Prop where
  role : l.role = .other
  stays : has Block.closeMark l.content = false
  notOpener : ¬ l.IsOpener
  notCloser : ¬ l.IsCloser

theorem Line.IsCloser.role {l : Line} (h : l.IsCloser) : l.role = .other := by
  have hlevel := Layout.level_eq_zero h.starts (by decide)
  have hstarts := h.starts
  unfold Line.role Role.ofContent
  cases hcontent : l.content with
  | nil => simp [hcontent] at hstarts
  | cons d s =>
    have hd : d = '}' := by simpa [hcontent] using hstarts
    rw [hcontent, hd] at hlevel
    simp [hlevel, hd, commentMark]

/-- Lines inside a block whose braces match. No line of them is a heading or closes the block. -/
inductive Code where
  | done
  | blank (l : Line) (h : l.role = .blank) (rest : Code)
  | comment (l : Line) (h : l.role = .comment) (stays : has Block.closeMark l.content = false)
      (rest : Code)
  | plain (l : Line) (h : l.IsPlain) (rest : Code)
  | nest (opener : Line) (ho : opener.IsOpener) (inner : Code) (closer : Line) (hc : closer.IsCloser)
      (rest : Code)

def Code.lines : Code → List Line
  | done => []
  | blank l _ rest => l :: rest.lines
  | comment l _ _ rest => l :: rest.lines
  | plain l _ rest => l :: rest.lines
  | nest opener _ inner closer _ rest => opener :: (inner.lines ++ closer :: rest.lines)

theorem isPrefixOf_of_isBody {l : Line} (h : l.role.isBody = true) :
    commentMark.isPrefixOf l.content = decide (l.role = .comment) := by
  unfold Line.role Role.ofContent at h ⊢
  by_cases hempty : l.content = []
  · simp [hempty, Role.isBody] at h
  · by_cases hlevel : 0 < Role.level l.content
    · simp [hempty, hlevel, Role.isBody] at h
    · cases hcomment : commentMark.isPrefixOf l.content <;> simp [hempty, hlevel]

namespace Layout

def Context.base (c : Context) (width : Nat) : Text :=
  if c.underSubheading then List.replicate (2 * width) ' ' else []

def codeLine (width : Nat) (c : Context) (n : Nat) (l : Line) : Text :=
  c.base width ++ List.replicate (width * (c.depth + n + 1)) ' ' ++ l.content

/-- The lines of the code as they are written, with `n` open braces around all of them. -/
def written (width : Nat) (c : Context) (n : Nat) : Code → List Text
  | .done => []
  | .blank _ _ rest => [] :: written width c n rest
  | .comment l _ _ rest => (c.base width ++ l.content) :: written width c n rest
  | .plain l _ rest => codeLine width c n l :: written width c n rest
  | .nest opener _ inner closer _ rest => codeLine width c n opener ::
      (written width c (n + 1) inner ++ codeLine width c n closer :: written width c n rest)

section Lines

variable (w : Nat) {c : Context} (hin : c.inBlock = true) (n : Nat) {l : Line}

include hin

end Lines

section Fits

variable {c : Context} (hin : c.inBlock = true) {n : Nat} {l : Line}

include hin

end Fits

end Layout
end Regimen
