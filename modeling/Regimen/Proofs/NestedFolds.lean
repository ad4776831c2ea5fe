import Mathlib.Data.List.Nodup
import Regimen.Proofs.Sections

/-! Folds do not cross. Of two sections, the later one starts after the earlier one has ended or lies
within it, and then its heading is the deeper one. -/
namespace Regimen.Document

section Sections

variable {d : Document} {i level : Nat}

private theorem HeadingAt.level_unique {m n : Nat} (hm : d.HeadingAt i m) (hn : d.HeadingAt i n) :
    m = n := by
  obtain ⟨l, hl, hm⟩ := hm
  obtain ⟨l', hl', hn⟩ := hn
  have hline : l = l' := Option.some.inj (hl.symm.trans hl')
  rw [← hline, hm] at hn
  exact Role.heading.inj hn

private theorem HeadingAt.le_lastIndex (h : d.HeadingAt i level) : i ≤ d.lastIndex := by
  obtain ⟨l, hl, -⟩ := h
  have hlt := (List.getElem?_eq_some_iff.1 hl).1
  unfold lastIndex lineCount
  omega

private theorem SectionEnd.le_lastIndex {e : Nat} (h : d.SectionEnd i level e) : e ≤ d.lastIndex := by
  cases h with
  | unclosed => exact Nat.le_refl _
  | @closed j hleast =>
    obtain ⟨-, m, -, hj⟩ := hleast.1
    have hle := hj.le_lastIndex
    omega

private theorem SectionEnd.lt_of_closes {e j : Nat} (h : d.SectionEnd i level e)
    (hj : d.Closes i level j) : e < j := by
  cases h with
  | unclosed hnone => exact absurd hj (hnone j)
  | @closed k hleast =>
    have hle := hleast.2 hj
    have hlt := hleast.1.1
    omega

private theorem SectionEnd.end_unique {e e' : Nat} (h : d.SectionEnd i level e)
    (h' : d.SectionEnd i level e') : e = e' := by
  cases h with
  | unclosed hnone =>
    cases h' with
    | unclosed => rfl
    | closed hleast => exact absurd hleast.1 (hnone _)
  | closed hleast =>
    cases h' with
    | unclosed hnone => exact absurd hleast.1 (hnone _)
    | closed hleast' =>
      have hle := hleast.2 hleast'.1
      have hge := hleast'.2 hleast.1
      omega

private theorem IsFold.eq_of_first {f g : Fold} (hf : d.IsFold f) (hg : d.IsFold g)
    (h : f.first = g.first) : f = g := by
  obtain ⟨m, hm, hend, -⟩ := hf
  obtain ⟨n, hn, hend', -⟩ := hg
  rw [← h] at hn hend'
  rw [hm.level_unique hn] at hend
  cases f
  cases g
  exact congrArg₂ Fold.mk h (hend.end_unique hend')

private theorem IsFold.apart_or_nested {f g : Fold} (hf : d.IsFold f) (hg : d.IsFold g)
    (h : f.first < g.first) : f.last < g.first ∨ g.last ≤ f.last ∧
      ∃ m n, d.HeadingAt f.first m ∧ d.HeadingAt g.first n ∧ m < n := by
  obtain ⟨m, hm, hend, -⟩ := hf
  obtain ⟨n, hn, hend', -⟩ := hg
  by_cases hlevel : n ≤ m
  · exact .inl (hend.lt_of_closes ⟨h, n, hlevel, hn⟩)
  · have hdeeper : ∃ m n, d.HeadingAt f.first m ∧ d.HeadingAt g.first n ∧ m < n :=
      ⟨m, n, hm, hn, by omega⟩
    generalize f.last = last at hend ⊢
    cases hend with
    | unclosed => exact .inr ⟨hend'.le_lastIndex, hdeeper⟩
    | @closed j hleast =>
      obtain ⟨hj, k, hk, hheading⟩ := hleast.1
      by_cases hbefore : j ≤ g.first
      · left
        omega
      · have hinner := hend'.lt_of_closes ⟨by omega, k, by omega, hheading⟩
        exact .inr ⟨by omega, hdeeper⟩

end Sections

/-- The folds of a document start on headings of their own and form a nested family. -/
theorem folds_well_nested (t : Text) :
    (∀ f ∈ (ofText t).folds, f.first < f.last ∧ f.last ≤ (ofText t).lastIndex ∧
      ∃ level, (ofText t).HeadingAt f.first level) ∧
    ((ofText t).folds.map Fold.first).Nodup ∧
    ∀ f ∈ (ofText t).folds, ∀ g ∈ (ofText t).folds, f.first < g.first →
      f.last < g.first ∨ g.last ≤ f.last ∧
        ∃ m n, (ofText t).HeadingAt f.first m ∧ (ofText t).HeadingAt g.first n ∧ m < n := by
  refine ⟨?_, ?_, ?_⟩
  · intro f hf
    obtain ⟨level, hfirst, hlast, hlt⟩ := mem_folds_iff_isFold.1 hf
    exact ⟨hlt, hlast.le_lastIndex, level, hfirst⟩
  · apply (nodup_folds t).map_on
    intro f hf g hg hfg
    exact (mem_folds_iff_isFold.1 hf).eq_of_first (mem_folds_iff_isFold.1 hg) hfg
  · intro f hf g hg
    exact (mem_folds_iff_isFold.1 hf).apart_or_nested (mem_folds_iff_isFold.1 hg)

theorem folds_well_nested_pair : ⟨0, 2⟩ ∈ (ofText "# A\n## B\nb".toList).folds ∧
    ⟨1, 2⟩ ∈ (ofText "# A\n## B\nb".toList).folds ∧
    ∃ m n, (ofText "# A\n## B\nb".toList).HeadingAt 0 m ∧
      (ofText "# A\n## B\nb".toList).HeadingAt 1 n ∧ m < n := by
  have houter : ⟨0, 2⟩ ∈ (ofText "# A\n## B\nb".toList).folds := by decide
  have hinner : ⟨1, 2⟩ ∈ (ofText "# A\n## B\nb".toList).folds := by decide
  refine ⟨houter, hinner, ?_⟩
  rcases (folds_well_nested _).2.2 _ houter _ hinner Nat.zero_lt_one with hapart | ⟨-, hdeeper⟩
  · simp at hapart
  · exact hdeeper

end Regimen.Document
