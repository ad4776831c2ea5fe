import Regimen.Proofs.Respacing

/-! The contents of the lines of a document: the pieces between line feeds, without their margins. -/
namespace Regimen

theorem isMargin_of_isBlank {c : Char} (h : isBlank c = true) : isMargin c = true := by
  simp [isMargin, h]

namespace Text

theorem Tight.blank_of_margin {s : Text} (hs : Tight isMargin s) : Tight isBlank s :=
  hs.mono fun _ => isMargin_of_isBlank

theorem not_mem_of_mem_splitWhere {p : Char → Bool} {s l : Text} (hl : l ∈ splitWhere p s) :
    ∀ c ∈ l, p c = false := by
  induction s generalizing l with
  | nil =>
    simp only [splitWhere, List.mem_singleton] at hl
    simp [hl]
  | cons a s ih =>
    by_cases ha : p a = true
    · simp only [splitWhere, ha, if_true, List.mem_cons] at hl
      rcases hl with rfl | hl
      · simp
      · exact ih hl
    · obtain ⟨m, rest, hm⟩ := List.exists_cons_of_ne_nil (splitWhere_ne_nil p s)
      simp only [splitWhere, ha, hm, List.modifyHead_cons] at hl
      rcases List.mem_cons.1 hl with rfl | hl
      · intro c hc
        rcases List.mem_cons.1 hc with rfl | hc
        · simpa using ha
        · exact ih (by simp [hm]) c hc
      · exact ih (by simp [hm, hl])

private theorem newline_not_mem_pieces {t l : Text} (hl : l ∈ pieces t) : '\n' ∉ l := by
  intro h
  simpa using not_mem_of_mem_splitWhere hl '\n' h

theorem exists_dropReturn_append (s : Text) :
    ∃ g : Text, Blanks g ∧ dropReturn s ++ g = s := by
  unfold dropReturn
  split
  next h =>
    refine ⟨['\r'], by simp; decide, ?_⟩
    exact List.dropLast_append_getLast? '\r' h
  next => exact ⟨[], by simp, by simp⟩

private theorem trimBy_dropReturn (s : Text) : trimBy isMargin (dropReturn s) = trimBy isMargin s := by
  obtain ⟨g, hg, hs⟩ := exists_dropReturn_append s
  have hmargin : ∀ c ∈ g, isMargin c = true := fun c hc => isMargin_of_isBlank (hg c hc)
  have h := @trimBy_between isMargin [] g (by simp) hmargin (dropReturn s)
  rw [List.nil_append, hs] at h
  exact h.symm

theorem trimBy_isMargin {s t : Text} (hs : Tight isMargin s) (h : ink t = ink s) :
    trimBy isMargin t = trim t := by
  obtain ⟨g, g', hg, hg', ht⟩ := exists_margins isBlank t
  obtain ⟨hhead, hlast⟩ := ends_of_ink hs.blank_of_margin h
  have htight : Tight isMargin (trim t) := by
    refine ⟨fun c hc => hs.head c ?_, fun c hc => hs.last c ?_⟩
    · rwa [← hhead]
    · rwa [← hlast]
  nth_rewrite 1 [← ht]
  exact trimBy_of_tight (fun c hc => isMargin_of_isBlank (hg c hc)) htight
    fun c hc => isMargin_of_isBlank (hg' c hc)

theorem mem_of_mem_trimBy {p : Char → Bool} {s : Text} {c : Char} (h : c ∈ trimBy p s) : c ∈ s := by
  obtain ⟨g, g', _, _, hs⟩ := exists_margins p s
  rw [← hs]
  simp [h]

end Text

namespace Document

def contents (d : Document) : List Text := d.lines.map Line.content

@[simp] theorem raws_ofLines (raws : List Text) : (ofLines raws).lines.map Line.raw = raws := by
  unfold ofLines
  apply List.ext_getElem
  · simp
  · intro i hi hi'
    simp

@[simp] theorem contents_ofLines (raws : List Text) :
    (ofLines raws).contents = raws.map (Text.trimBy isMargin) := by
  have h : (ofLines raws).contents =
      ((ofLines raws).lines.map Line.raw).map (Text.trimBy isMargin) := by
    rw [List.map_map]
    rfl
  rw [h, raws_ofLines]

theorem contents_ofText (t : Text) :
    (ofText t).contents = (Text.pieces t).map (Text.trimBy isMargin) := by
  unfold ofText
  rw [contents_ofLines, List.map_map]
  apply List.map_congr_left
  intro l _
  exact Text.trimBy_dropReturn l

theorem contents_ne_nil (t : Text) : (ofText t).contents ≠ [] := by
  rw [contents_ofText]
  simp [Text.pieces_ne_nil]

theorem tight_of_mem_contents {d : Document} {s : Text} (hs : s ∈ d.contents) :
    Text.Tight isMargin s := by
  obtain ⟨l, _, rfl⟩ := List.mem_map.1 hs
  exact Text.tight_trimBy isMargin l.raw

theorem newline_not_mem_contents {t s : Text} (hs : s ∈ (ofText t).contents) : '\n' ∉ s := by
  rw [contents_ofText] at hs
  obtain ⟨l, hl, rfl⟩ := List.mem_map.1 hs
  intro h
  exact Text.newline_not_mem_pieces hl (Text.mem_of_mem_trimBy h)

end Document
end Regimen
