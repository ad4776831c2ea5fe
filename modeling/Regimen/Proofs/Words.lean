import Regimen.Proofs.Scanning

/-! Lines formatted one by one with the depth in a word. As long as nothing outgrows the word, this is the
layout with exact numbers. -/
namespace Regimen.Layout

namespace Context

/-- After the line the depth still fits into a word, and so do the units of the line beyond the body. -/
def Fits (c : Context) (l : Line) : Prop :=
  (place c l.content).1.depth < UInt64.size ∧ (place c l.content).2.units < c.bodyUnits + UInt64.size

def FitsAll (c : Context) : List Line → Prop
  | [] => True
  | l :: rest => c.Fits l ∧ (place c l.content).1.FitsAll rest

theorem depthOf_le (c : Context) (s : Text) : c.depthOf s ≤ c.depth := by
  unfold depthOf
  split <;> omega

private theorem le_depthOf (c : Context) (s : Text) : c.depth ≤ c.depthOf s + 1 := by
  unfold depthOf
  split <;> omega

end Context

private theorem placeCode_le (c : Context) (s : Text) : (placeCode c s).1.depth ≤ c.depthOf s + 1 ∧
    (placeCode c s).2.units ≤ c.bodyUnits + (c.depthOf s + 1) := by
  have hdepth := c.le_depthOf s
  cases hclose : Text.has Block.closeMark s with
  | true => simp [placeCode_of_close c hclose, Context.exitBlock]
  | false =>
    cases hcomment : commentMark.isPrefixOf s with
    | true => simpa [placeCode_of_comment c hclose hcomment] using hdepth
    | false =>
      rw [placeCode_of_code c hclose hcomment]
      dsimp only
      split <;> omega

private theorem placeBody_le (c : Context) (s : Text) :
    (placeBody c s).1.depth ≤ c.depth ∧ (placeBody c s).2.units = c.bodyUnits := by
  unfold placeBody
  split <;> simp [Context.enterBlock]

theorem place_le (c : Context) (l : Line) : (place c l.content).1.depth ≤ c.depthOf l.content + 1 ∧
    (place c l.content).2.units ≤ c.bodyUnits + (c.depthOf l.content + 1) := by
  have hdepth := c.le_depthOf l.content
  cases hrole : l.role with
  | blank => simpa [place_of_blank c hrole] using hdepth
  | heading level =>
    rw [place_of_heading c hrole]
    dsimp only
    split <;> omega
  | comment | other =>
    rw [place_of_isBody c (by rw [hrole]; rfl)]
    split
    · exact placeCode_le c l.content
    · have hbody := placeBody_le c l.content
      omega

namespace Context

theorem fits_of_lt {c : Context} {l : Line} (h : c.depthOf l.content + 1 < UInt64.size) : c.Fits l := by
  have hplace := place_le c l
  exact ⟨by omega, by omega⟩

theorem fitsAll_of_lt {c : Context} {ls : List Line} (h : c.depth + ls.length < UInt64.size) :
    c.FitsAll ls := by
  induction ls generalizing c with
  | nil => trivial
  | cons l ls ih =>
    have hplace := place_le c l
    have hdepth := c.depthOf_le l.content
    rw [List.length_cons] at h
    exact ⟨fits_of_lt (by omega), ih (by omega)⟩

end Context

namespace Scan

private theorem context_ofContext {c : Context} (h : c.depth < UInt64.size) : (ofContext c).context = c := by
  have hdepth : (UInt64.ofNat c.depth).toNat = c.depth := UInt64.toNat_ofNat_of_lt' h
  rw [context, ofContext, hdepth]

private theorem formatLine_of_fits (w : Nat) {s : Scan} {l : Line} (h : s.context.Fits l) :
    s.formatLine w l =
      (ofContext (Layout.formatLine w s.context l).1, (Layout.formatLine w s.context l).2) := by
  have hunits : (place s.context l.content).2.wrap s.context.bodyUnits = (place s.context l.content).2 :=
    if_neg (Nat.ne_of_lt h.2)
  unfold formatLine Layout.formatLine
  dsimp only
  rw [hunits]

def formatAll (width : Nat) (s : Scan) : List Line → Scan × List Text
  | [] => (s, [])
  | l :: rest =>
    let (s, out) := s.formatLine width l
    let (s, outs) := s.formatAll width rest
    (s, out :: outs)

theorem formatAll_of_fits (w : Nat) {c : Context} {ls : List Line} (hdepth : c.depth < UInt64.size)
    (h : c.FitsAll ls) :
    (ofContext c).formatAll w ls =
      (ofContext (Layout.formatAll w c ls).1, (Layout.formatAll w c ls).2) := by
  induction ls generalizing c with
  | nil => rfl
  | cons l ls ih =>
    obtain ⟨hfits, hrest⟩ := h
    have hcontext := context_ofContext hdepth
    have hline := formatLine_of_fits w (s := ofContext c) (hcontext.symm ▸ hfits)
    rw [hcontext] at hline
    unfold formatAll
    rw [hline, formatAll_cons]
    dsimp only
    rw [ih (c := (Layout.formatLine w c l).1) hfits.1 hrest]

end Scan
end Regimen.Layout
