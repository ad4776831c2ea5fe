import Regimen.Proofs.Contents
import Regimen.Proofs.EditorLines

/-! A text and the lines of its document determine each other up to the line ends. Lines that are joined
by line feeds, some with a carriage return before them, are the lines of the joined text. The lines of a
text, joined by line feeds, give the text back without the carriage returns of its line ends. -/
namespace Regimen

/-- The contents of all lines, from the first to the one that has not ended. -/
def Rows.lines (r : Rows) : List Text := r.ended.map Row.content ++ [r.last]

namespace Text

/-- Writes each line end of a carriage return and a line feed as a line feed. -/
def unifyEnds : Text → Text
  | [] => []
  | '\r' :: '\n' :: s => '\n' :: unifyEnds s
  | c :: s => c :: unifyEnds s

private theorem unifyEnds_ne_nil {s : Text} (h : s ≠ []) : unifyEnds s ≠ [] := by
  fun_cases unifyEnds s <;> simp_all

private theorem getLast?_unifyEnds (t : Text) : (unifyEnds t).getLast? = t.getLast? := by
  fun_induction unifyEnds t with
  | case1 => rfl
  | case2 s ih => rw [List.getLast?_cons_cons, List.getLast?_cons, List.getLast?_cons, ih]
  | case3 c s _ ih => rw [List.getLast?_cons, List.getLast?_cons, ih]

private theorem dropReturn_of_getLast? {l : Text} (h : l.getLast? ≠ some '\r') :
    dropReturn l = l := if_neg h

@[simp] theorem dropReturn_concat (l : Text) : dropReturn (l ++ ['\r']) = l := by
  simp [dropReturn]

private theorem dropReturn_cons {c : Char} {l : Text} (h : l ≠ [] ∨ c ≠ '\r') :
    dropReturn (c :: l) = c :: dropReturn l := by
  cases l with
  | nil => simpa [dropReturn] using h
  | cons d l =>
    unfold dropReturn
    rw [List.getLast?_cons_cons, List.dropLast_cons_cons]
    split <;> rfl

private theorem map_dropReturn_whole {row : Row} (hend : row.ending ≠ .ret) (hfeed : '\n' ∉ row.content)
    (hret : row.content.getLast? ≠ some '\r') (s : Text) :
    (pieces (row.whole ++ s)).map dropReturn = row.content :: (pieces s).map dropReturn := by
  obtain ⟨content, ending⟩ := row
  cases ending with
  | ret => contradiction
  | feed =>
    have hchars : (Row.mk content .feed).whole ++ s = content ++ '\n' :: s := by
      simp [Row.whole, LineEnd.chars]
    rw [hchars, pieces_append_newline, pieces_of_not_mem hfeed, List.map_append, List.map_singleton,
      dropReturn_of_getLast? hret, List.singleton_append]
  | retFeed =>
    have hchars : (Row.mk content .retFeed).whole ++ s = (content ++ ['\r']) ++ '\n' :: s := by
      simp [Row.whole, LineEnd.chars]
    have hline : '\n' ∉ content ++ ['\r'] := by simpa using hfeed
    rw [hchars, pieces_append_newline, pieces_of_not_mem hline, List.map_append, List.map_singleton,
      dropReturn_concat, List.singleton_append]

private theorem map_dropReturn_text {r : Rows} (hends : ∀ row ∈ r.ended, row.ending ≠ .ret)
    (hlines : ∀ l ∈ r.lines, '\n' ∉ l ∧ l.getLast? ≠ some '\r') :
    (pieces r.text).map dropReturn = r.lines := by
  obtain ⟨ended, last⟩ := r
  induction ended with
  | nil =>
    obtain ⟨hfeed, hret⟩ := hlines last (by simp [Rows.lines])
    simp [Rows.text, Rows.lines, pieces_of_not_mem hfeed, dropReturn_of_getLast? hret]
  | cons row below ih =>
    obtain ⟨hfeed, hret⟩ := hlines row.content (by simp [Rows.lines])
    have hbelow := ih (fun r hr => hends r (List.mem_cons_of_mem _ hr))
      fun l hl => hlines l (List.mem_cons_of_mem _ hl)
    have htext : Rows.text ⟨row :: below, last⟩ = row.whole ++ Rows.text ⟨below, last⟩ := by
      simp [Rows.text]
    rw [htext, map_dropReturn_whole (hends row (by simp)) hfeed hret, hbelow]
    rfl

private theorem head_pieces_ne_nil {s l : Text} {ls : List Text} (hs : pieces s = l :: ls)
    (hne : s ≠ []) (hfeed : ∀ r, s ≠ '\n' :: r) : l ≠ [] := by
  obtain ⟨d, r, rfl⟩ := List.exists_cons_of_ne_nil hne
  have hd : d ≠ '\n' := fun hd => hfeed r (by rw [hd])
  obtain ⟨m, ms, hm⟩ := List.exists_cons_of_ne_nil (pieces_ne_nil r)
  rw [pieces_cons hd, hm, List.modifyHead_cons] at hs
  rw [← (List.cons.inj hs).1]
  exact List.cons_ne_nil d m

theorem joinLines_dropReturn (t : Text) :
    joinLines ((pieces t).map dropReturn) = dropReturn (unifyEnds t) := by
  have hne : ∀ s, (pieces s).map dropReturn ≠ [] := fun s => by simpa using pieces_ne_nil s
  fun_induction unifyEnds t with
  | case1 => rfl
  | case2 s ih =>
    have hreturn : dropReturn ['\r'] = [] := rfl
    rw [pieces_cons (by decide), pieces_newline_cons, List.modifyHead_cons, List.map_cons, hreturn,
      joinLines_cons (hne s), ih, List.nil_append, dropReturn_cons (.inr (by decide))]
  | case3 c s hpair ih =>
    by_cases hc : c = '\n'
    · rw [hc, pieces_newline_cons, List.map_cons, joinLines_cons (hne s), ih,
        dropReturn_cons (.inr (by decide))]
      rfl
    by_cases hlast : s = [] ∧ c = '\r'
    · obtain ⟨rfl, rfl⟩ := hlast
      rfl
    obtain ⟨l, ls, hs⟩ := List.exists_cons_of_ne_nil (pieces_ne_nil s)
    have hkept : (l ≠ [] ∧ unifyEnds s ≠ []) ∨ c ≠ '\r' := by
      by_cases hreturn : c = '\r'
      · have hs' : s ≠ [] := fun h => hlast ⟨h, hreturn⟩
        exact .inl ⟨head_pieces_ne_nil hs hs' fun r hr => hpair r hreturn hr, unifyEnds_ne_nil hs'⟩
      · exact .inr hreturn
    have hline : dropReturn (c :: l) = c :: dropReturn l := dropReturn_cons (hkept.imp_left And.left)
    rw [dropReturn_cons (hkept.imp_left And.right), ← ih, ← joinLines_modifyHead_cons c (hne s),
      pieces_cons hc, hs, List.modifyHead_cons, List.map_cons, List.map_cons, List.modifyHead_cons, hline]

end Text

namespace Document
open Text

/-- Lines that hold no line feed and do not end with a carriage return are read back, in order and
numbered from 0, from a text in which line feeds end them, with or without a carriage return. The lines
of any text, joined by line feeds, make up the text with its line ends unified and without a carriage
return at its end. -/
theorem ofText_inverts_joining (r : Rows) (t : Text) :
    ((∀ row ∈ r.ended, row.ending ≠ .ret) → (∀ l ∈ r.lines, '\n' ∉ l ∧ l.getLast? ≠ some '\r') →
      let d := ofText r.text
      d.lines = r.lines.mapIdx Line.mk ∧ d.lineCount = r.lines.length ∧
        d.lastIndex = r.lines.length - 1) ∧
    joinLines ((ofText t).lines.map Line.raw) =
      (if t.getLast? = some '\r' then (unifyEnds t).dropLast else unifyEnds t) ∧
    (ofText t).lineCount = t.count '\n' + 1 := by
  refine ⟨fun hends hlines => ?_, ?_, lineCount_ofText t⟩
  · have hread : ofText r.text = ofLines r.lines := congrArg ofLines (map_dropReturn_text hends hlines)
    simp [hread, ofLines, lineCount, lastIndex]
  · rw [ofText, raws_ofLines, joinLines_dropReturn, dropReturn, getLast?_unifyEnds]

theorem ofText_inverts_joining_mixed :
    let r : Rows := ⟨[⟨"\r\ra".toList, .retFeed⟩, ⟨[], .feed⟩, ⟨"b\r c".toList, .retFeed⟩], []⟩
    let t : Text := "a\r\r\nb\rc\n\r\r".toList
    r.text = "\r\ra\r\n\nb\r c\r\n".toList ∧
      (ofText r.text).lines = [⟨0, "\r\ra".toList⟩, ⟨1, []⟩, ⟨2, "b\r c".toList⟩, ⟨3, []⟩] ∧
      joinLines ((ofText t).lines.map Line.raw) = "a\r\nb\rc\n\r".toList := by
  intro r t
  obtain ⟨hlines, hjoined, -⟩ := ofText_inverts_joining r t
  exact ⟨rfl, (hlines (by decide) (by decide)).1, hjoined⟩

end Document
end Regimen
