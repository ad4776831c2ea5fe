import Mathlib.Algebra.Group.Nat.Defs
import Regimen.Proofs.Bounds
import Regimen.Proofs.Reading

/-! Settings are read back as they were written. The written form is a plain document whose two tables
hold truth values and one decimal number. -/
namespace Regimen

namespace Toml
open Reader

structure DecimalDigits (ds : Text) : Prop where
  ne_nil : ds ≠ []
  digit : ∀ c ∈ ds, c.isDigit = true
  lead : ds.head? = some '0' → ds = ['0']

theorem DecimalDigits.exists_head {ds : Text} (h : DecimalDigits ds) :
    ∃ c cs, ds = c :: cs ∧ c.isDigit = true := by
  obtain ⟨c, cs, rfl⟩ := List.exists_cons_of_ne_nil h.ne_nil
  exact ⟨c, cs, rfl, h.digit c (by simp)⟩

private theorem head?_toDigits {n : Nat} (h : 0 < n) : (Nat.toDigits 10 n).head? ≠ some '0' := by
  have hdigit : ∀ d < 10, 0 < d → Nat.digitChar d ≠ '0' := by decide
  induction n using Nat.strongRecOn with
  | ind n ih =>
    by_cases hlt : n < 10
    · rw [Nat.toDigits_of_lt_base hlt]
      simpa using hdigit n hlt h
    · have hrest := ih (n / 10) (by omega) (by omega)
      obtain ⟨c, cs, hcs⟩ := List.exists_cons_of_ne_nil (@Nat.toDigits_ne_nil (n / 10) 10)
      rw [hcs] at hrest
      rw [Nat.toDigits_of_base_le (by decide) (by omega), hcs]
      exact hrest

private theorem decimalDigits_toDigits (n : Nat) : DecimalDigits (Nat.toDigits 10 n) where
  ne_nil := Nat.toDigits_ne_nil
  digit _ := Nat.isDigit_of_mem_toDigits (by decide) (by decide)
  lead h := by
    cases n with
    | zero => rfl
    | succ n => exact absurd h (head?_toDigits n.succ_pos)

private theorem ne_of_isDigit {c d : Char} (hc : c.isDigit = true) (hd : d.isDigit = false) :
    c ≠ d := by
  rintro rfl
  simp [hc] at hd

theorem not_marked {ds : Text} (h : DecimalDigits ds) (rest : Text) (n : Nat) {mark : Char}
    (hdigit : mark.isDigit = false) (hnewline : mark ≠ '\n') :
    (((ds ++ '\n' :: rest).take n).all Char.isDigit &&
      ((ds ++ '\n' :: rest).drop n).head? = some mark) = false := by
  by_cases hn : n ≤ ds.length
  · rw [List.drop_append_of_le_length hn]
    cases hdrop : ds.drop n with
    | nil => simp [hnewline.symm]
    | cons c cs =>
      have hc : c.isDigit = true := h.digit c (List.mem_of_mem_drop (hdrop ▸ List.mem_cons_self))
      simp [ne_of_isDigit hc hdigit]
  · obtain ⟨k, rfl⟩ : ∃ k, n = ds.length + (k + 1) := ⟨n - ds.length - 1, by omega⟩
    rw [List.take_length_add_append]
    simp

private theorem digits_append {ds : Text} (h : DecimalDigits ds) (rest : Text) :
    digits Char.isDigit (ds ++ '\n' :: rest) = some (ds, '\n' :: rest) := by
  unfold digits
  rw [bind_apply, span1_append h.ne_nil h.digit (by decide)]
  exact loop_of_inr rfl

private theorem wholeDigits_append {ds : Text} (h : DecimalDigits ds) (rest : Text) :
    wholeDigits (ds ++ '\n' :: rest) = some (ds, '\n' :: rest) := by
  by_cases hzero : ds = ['0']
  · subst hzero
    rfl
  · have hdigits := digits_append h rest
    obtain ⟨c, cs, rfl⟩ := List.exists_cons_of_ne_nil h.ne_nil
    have hc : c ≠ '0' := fun hc => hzero (h.lead (by simp [hc]))
    rw [List.cons_append] at hdigits ⊢
    simp [wholeDigits, bind_apply, accept, hc.symm, hdigits]

private theorem decimalParts_append {ds : Text} (h : DecimalDigits ds) (rest : Text) :
    decimalParts (ds ++ '\n' :: rest) = some (⟨false, ds, none, none⟩, '\n' :: rest) := by
  have hwhole := wholeDigits_append h rest
  obtain ⟨c, cs, rfl, hc⟩ := h.exists_head
  have hminus : c ≠ '-' := ne_of_isDigit hc rfl
  have hplus : c ≠ '+' := ne_of_isDigit hc rfl
  have hsign : sign (c :: (cs ++ '\n' :: rest)) = some (false, c :: (cs ++ '\n' :: rest)) := by
    simp [sign, bind_apply, map_apply, accept, hminus.symm, hplus.symm]
  rw [List.cons_append] at hwhole ⊢
  simp only [decimalParts, bind_apply, hsign, hwhole, Option.bind_some]
  rfl

private theorem not_isAlpha_of_isDigit {c : Char} (hc : c.isDigit = true) : c.isAlpha = false := by
  have hnine : c.toNat ≤ '9'.toNat := (Char.isDigit_iff_toNat.1 hc).2
  have hbelow {d : Char} (hd : '9'.toNat < d.toNat) : ¬ c.val ≥ d.val := by
    intro h
    have hle : d.toNat ≤ c.toNat := UInt32.le_iff_toNat_le.1 h
    omega
  have hupper : c.isUpper = false := decide_eq_false fun h => hbelow (d := 'A') (by decide) h.1
  have hlower : c.isLower = false :=
    Bool.and_eq_false_iff.2 (.inl (decide_eq_false (hbelow (d := 'a') (by decide))))
  exact Bool.or_eq_false_iff.2 ⟨hupper, hlower⟩

private theorem startsWord_digits {ds : Text} (h : DecimalDigits ds) (rest : Text) :
    startsWord (ds ++ '\n' :: rest) = false := by
  obtain ⟨c, cs, rfl, hc⟩ := h.exists_head
  have hminus : c ≠ '-' := ne_of_isDigit hc rfl
  have hplus : c ≠ '+' := ne_of_isDigit hc rfl
  simp [startsWord, hminus, hplus, not_isAlpha_of_isDigit hc]

private theorem sees_base {ds : Text} (h : DecimalDigits ds) (rest : Text) {b : Char}
    (hb : b.isAlpha = true) :
    sees ['0', b] (ds ++ '\n' :: rest) = some (false, ds ++ '\n' :: rest) := by
  have hne : ∀ d : Char, d.isAlpha = false → b ≠ d := by
    rintro d hd rfl
    simp [hd] at hb
  match ds, h with
  | [], h => exact absurd rfl h.ne_nil
  | [c], _ => simp [sees, List.isPrefixOf, hne '\n' rfl]
  | c :: d :: cs, h =>
    have hd := not_isAlpha_of_isDigit (h.digit d (by simp))
    simp [sees, List.isPrefixOf, hne d hd]

private theorem number_append {ds : Text} (h : DecimalDigits ds) (hmax : ofDigits 10 ds ≤ maxInteger)
    (rest : Text) :
    number (ds ++ '\n' :: rest) = some (.integer (ofDigits 10 ds), '\n' :: rest) := by
  have hdecimal : decimal (ds ++ '\n' :: rest) =
      some (.integer (ofDigits 10 ds), '\n' :: rest) := by
    simp [decimal, bind_apply, get_apply, decimalParts_append h, Decimal.isFloat, boundedInteger, hmax,
      pure_apply]
  simp [number, bind_apply, get_apply, sees_base h rest, startsWord_digits h, hdecimal]

private theorem value_of_head {c : Char}
    (hbracket : c ≠ '[') (hbrace : c ≠ '{') (s : Text) (depth : Nat) :
    value depth (c :: s) = scalar (c :: s) := by
  cases depth with
  | zero => rfl
  | succ depth => simp [value, bind_apply, accept, hbracket.symm, hbrace.symm]

private theorem scalar_of_digits {ds : Text} (h : DecimalDigits ds) (rest : Text) :
    scalar (ds ++ '\n' :: rest) = number (ds ++ '\n' :: rest) := by
  have hdate : startsDate (ds ++ '\n' :: rest) = false := not_marked h rest 4 rfl (by decide)
  have htime : startsTime (ds ++ '\n' :: rest) = false := not_marked h rest 2 rfl (by decide)
  obtain ⟨c, cs, rfl, hc⟩ := h.exists_head
  have hquote : c ≠ quote := ne_of_isDigit hc rfl
  have hapostrophe : c ≠ apostrophe := ne_of_isDigit hc rfl
  have ht : c ≠ 't' := ne_of_isDigit hc rfl
  have hf : c ≠ 'f' := ne_of_isDigit hc rfl
  rw [List.cons_append] at hdate htime ⊢
  simp [scalar, bind_apply, get_apply, hquote, hapostrophe, ht, hf, hdate, htime]

private theorem reads_digits {ds : Text} (h : DecimalDigits ds) (hmax : ofDigits 10 ds ≤ maxInteger) :
    Reads ds (.integer (ofDigits 10 ds)) := by
  intro rest
  have hnumber := number_append h hmax rest
  rw [← scalar_of_digits h rest] at hnumber
  obtain ⟨c, cs, rfl, hc⟩ := h.exists_head
  have hgap : isGap c = false := by
    simp [isGap, ne_of_isDigit hc (d := ' ') rfl, ne_of_isDigit hc (d := '\t') rfl]
  rw [List.cons_append] at hnumber ⊢
  rw [List.dropWhile_cons_of_neg (by simp [hgap]),
    value_of_head (ne_of_isDigit hc rfl) (ne_of_isDigit hc rfl), hnumber]

end Toml

namespace Settings
open Toml

private theorem reads_numberText {n : Nat} (h : n ≤ maxInteger) :
    Reads (numberText n) (.integer n) := by
  have hreads := reads_digits (decimalDigits_toDigits n)
  rw [ofDigits_toDigits] at hreads
  exact hreads h

private theorem reads_boolText (b : Bool) : Reads (boolText b) (.boolean b) := by
  cases b <;> exact fun rest => rfl

def statements (s : Settings) : List Statement :=
  [.table ["format".toList], .entry [] "enabled".toList (.boolean s.format.enabled),
   .entry [] "indent_width".toList (.integer s.format.indentWidth),
   .table ["folding".toList], .entry [] "enabled".toList (.boolean s.folding.enabled)]

private theorem plain_toToml? {s : Settings} {t : Text} (h : s.toToml? = some t) :
    Plain t s.statements := by
  unfold toToml? at h
  split at h
  next hmax =>
    cases h
    have henabled : BareKey "enabled".toList := bareKey_of_all (by decide) rfl
    have hfolding := Plain.header (k := "folding".toList) (bareKey_of_all (by decide) rfl)
      (.entry henabled (reads_boolText s.folding.enabled) .nil)
    have hformat := Plain.header (k := "format".toList) (bareKey_of_all (by decide) rfl)
      (.entry henabled (reads_boolText s.format.enabled)
        (.entry (k := "indent_width".toList) (bareKey_of_all (by decide) rfl)
          (reads_numberText hmax) (.blank hfolding)))
    simpa [statements] using hformat
  next => simp at h

private theorem ofEntries_statements (s : Settings) :
    (Entries.ofStatements s.statements).bind ofEntries = some s := rfl

private theorem ofToml_toToml? {s : Settings} {t : Text} (h : s.toToml? = some t) :
    ofToml t = .ok s := by
  rw [ofToml, parse_of_plain (plain_toToml? h), ofEntries_statements]

private theorem read_regular (t : Text) :
    (SettingsFile.regular (String.ofList t).toUTF8).read = .ok t := by
  have hutf8 : String.fromUTF8? (String.ofList t).toUTF8 = some (String.ofList t) :=
    dif_pos (String.ofList t).isValidUTF8
  simp only [SettingsFile.read, SettingsFile.regular, hutf8, String.toList_ofList]

private theorem message?_indentWidth (w : Nat) :
    (SettingsError.indentWidth w).message? =
      some ("indent_width must be between 1 and 16, got " ++ toString w) := by
  have hmax : toString maxIndentWidth = "16" := by cbv
  have hbounds : "indent_width must be between 1 and " ++ "16" ++ ", got " =
      "indent_width must be between 1 and 16, got " := by decide
  unfold SettingsError.message?
  rw [hmax, ← hbounds]
  rfl

private theorem load_toToml? {s : Settings} {t : Text} (h : s.toToml? = some t) :
    load (.regular (String.ofList t).toUTF8) =
      if 1 ≤ s.format.indentWidth ∧ s.format.indentWidth ≤ 16 then .ok s
      else .error (.indentWidth s.format.indentWidth) := by
  rw [load_of_decoded (read_regular t) (ofToml_toToml? h), validate, maxIndentWidth]
  split <;> rfl

/-- What can be written reads back the same, valid or not, and a file of it loads if the width is in
bounds; else the error tells the width and the bounds. Only widths beyond the integers of TOML cannot
be written. -/
theorem toml_round_trip (s : Settings) :
    let width := s.format.indentWidth
    if width ≤ 2 ^ 63 - 1 then
      ∃ t, s.toToml? = some t ∧ ofToml t = .ok s ∧
        load (.regular (String.ofList t).toUTF8) =
          (if 1 ≤ width ∧ width ≤ 16 then .ok s else .error (.indentWidth width)) ∧
        (SettingsError.indentWidth width).message? =
          some ("indent_width must be between 1 and 16, got " ++ toString width)
    else s.toToml? = none := by
  intro width
  split
  next hmax =>
    obtain ⟨t, ht⟩ : ∃ t, s.toToml? = some t := ⟨_, if_pos hmax⟩
    exact ⟨t, ht, ofToml_toToml? ht, load_toToml? ht, message?_indentWidth width⟩
  next hmax => exact if_neg hmax

end Settings
end Regimen
