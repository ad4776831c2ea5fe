import Regimen.Toml.Parser

/-! How readers read what was written for them. A loop goes through the rounds that its steps ask for,
whatever bounds it, and a document of plain lines reads as the statements on them. -/
namespace Regimen

namespace Reader

theorem bind_apply (r : Reader α) (f : α → Reader β) (s : Text) :
    (r >>= f) s = (r s).bind fun p => f p.1 p.2 := rfl

theorem map_apply (f : α → β) (r : Reader α) (s : Text) :
    (f <$> r) s = (r s).map fun p => (f p.1, p.2) := by
  cases h : r s <;> simp [Functor.map, StateT.map, h]

theorem pure_apply (a : α) (s : Text) : (pure a : Reader α) s = some (a, s) := rfl

theorem get_apply (s : Text) : (get : Reader Text) s = some (s, s) := rfl

theorem span1_append {p : Char → Bool} {l r : Text} {c : Char} (hl : l ≠ []) (hall : ∀ d ∈ l, p d = true)
    (hc : p c = false) : span1 p (l ++ c :: r) = some (l, c :: r) := by
  have htake : (l ++ c :: r).takeWhile p = l := by
    rw [List.takeWhile_append_of_pos hall, List.takeWhile_cons_of_neg (by simp [hc]), List.append_nil]
  have hdrop : (l ++ c :: r).dropWhile p = c :: r := by
    rw [List.dropWhile_append_of_pos hall, List.dropWhile_cons_of_neg (by simp [hc])]
  simp [span1, htake, hdrop, hl]

section Loop

variable {step : σ → Reader (σ ⊕ α)} {a b : σ} {s t : Text} {r : α × Text}

private theorem rounds_mono {bound wider : Text} (hle : bound.length ≤ wider.length)
    (h : rounds step bound a s = some r) : rounds step wider a s = some r := by
  induction bound generalizing wider a s with
  | nil =>
    cases hstep : step a s with
    | none => simp [rounds, bind_apply, hstep] at h
    | some p =>
      obtain ⟨next | answer, t⟩ := p
      · simp [rounds, bind_apply, hstep, refuse] at h
      · rw [rounds_of_inr hstep] at h ⊢
        exact h
  | cons c bound ih =>
    cases hstep : step a s with
    | none => simp [rounds, bind_apply, hstep] at h
    | some p =>
      obtain ⟨next | answer, t⟩ := p
      · cases wider with
        | nil => simp at hle
        | cons d wider =>
          rw [rounds_of_inl hstep] at h ⊢
          exact ih (Nat.le_of_succ_le_succ hle) h
      · rw [rounds_of_inr hstep] at h ⊢
        exact h

theorem loop_of_inr {answer : α} (h : step a s = some (.inr answer, t)) :
    loop a step s = some (answer, t) := rounds_of_inr h s

private theorem loop_of_inl (h : step a s = some (.inl b, t)) (hlt : t.length < s.length)
    (hrest : loop b step t = some r) : loop a step s = some r := by
  cases s with
  | nil => simp at hlt
  | cons c s =>
    unfold loop
    rw [rounds_of_inl h]
    exact rounds_mono (Nat.le_of_lt_succ hlt) hrest

end Loop
end Reader

namespace Toml
open Reader

structure BareKey (k : Text) : Prop where
  ne_nil : k ≠ []
  bare : ∀ c ∈ k, isBareKey c = true

theorem BareKey.exists_head {k : Text} (h : BareKey k) :
    ∃ c cs, k = c :: cs ∧ isBareKey c = true := by
  obtain ⟨c, cs, rfl⟩ := List.exists_cons_of_ne_nil h.ne_nil
  exact ⟨c, cs, rfl, h.bare c (by simp)⟩

theorem bareKey_of_all {k : Text} (hne : k ≠ []) (hall : k.all isBareKey = true) : BareKey k :=
  ⟨hne, List.all_eq_true.1 hall⟩

/-- Between blanks and the end of a line the text reads as the value. -/
def Reads (x : Text) (v : Value) : Prop :=
  ∀ rest, value maxNesting ((x ++ '\n' :: rest).dropWhile isGap) = some (v, '\n' :: rest)

/-- Documents of blank lines, headers and entries, with a bare key on each, and the statements that they
make. -/
inductive Plain : Text → List Statement → Prop where
  | nil : Plain [] []
  | blank : Plain t ss → Plain ('\n' :: t) ss
  | header : BareKey k → Plain t ss → Plain ('[' :: (k ++ ']' :: '\n' :: t)) (.table [k] :: ss)
  | entry : BareKey k → Reads x v → Plain t ss →
      Plain (k ++ ' ' :: '=' :: ' ' :: (x ++ '\n' :: t)) (.entry [] k v :: ss)

private theorem gap_of_head {c : Char} (hc : isGap c = false) (s : Text) :
    gap (c :: s) = some ((), c :: s) := by
  simp [gap, skip, hc]

private theorem ne_of_isBareKey {c d : Char} (hc : isBareKey c = true) (hd : isBareKey d = false) :
    c ≠ d := by
  rintro rfl
  simp [hc] at hd

private theorem isGap_of_isBareKey {c : Char} (hc : isBareKey c = true) : isGap c = false := by
  simp [isGap, ne_of_isBareKey hc (d := ' ') rfl, ne_of_isBareKey hc (d := '\t') rfl]

private theorem simpleKey_bare {k : Text} (hk : BareKey k) {c : Char} (hc : isBareKey c = false)
    (rest : Text) : simpleKey (k ++ c :: rest) = some (k, c :: rest) := by
  obtain ⟨d, ds, rfl, hd⟩ := hk.exists_head
  have hquote : quote ≠ d := (ne_of_isBareKey hd rfl).symm
  have hapostrophe : apostrophe ≠ d := (ne_of_isBareKey hd rfl).symm
  have hspan := span1_append (r := rest) hk.ne_nil hk.bare hc
  simpa [simpleKey, bind_apply, sees, hquote, hapostrophe] using hspan

private theorem key_bare {k : Text} (hk : BareKey k) {c d : Char} {rest after : Text}
    (hc : isBareKey c = false) (hgap : (c :: rest).dropWhile isGap = d :: after) (hd : d ≠ '.') :
    key (k ++ c :: rest) = some (([], k), d :: after) := by
  have hstart : gap (k ++ c :: rest) = some ((), k ++ c :: rest) := by
    obtain ⟨e, es, rfl, he⟩ := hk.exists_head
    exact gap_of_head (isGap_of_isBareKey he) _
  have hend : gap (c :: rest) = some ((), d :: after) := by simp [gap, skip, hgap]
  unfold key
  rw [bind_apply, @loop_of_inr _ _ _ _ _ (d :: after) ([], k)]
  · simp [maxNesting, pure_apply]
  · simp [bind_apply, hstart, simpleKey_bare hk hc, hend, accept, hd.symm, pure_apply]

private theorem statement_header {k : Text} (hk : BareKey k) (rest : Text) :
    statement ('[' :: (k ++ ']' :: rest)) = some (.table [k], rest) := by
  have hkey : key (k ++ ']' :: rest) = some (([], k), ']' :: rest) :=
    key_bare hk rfl rfl (by decide)
  obtain ⟨c, cs, rfl, hbare⟩ := hk.exists_head
  have hc : c ≠ '[' := ne_of_isBareKey hbare rfl
  rw [List.cons_append] at hkey ⊢
  simp [statement, header, bind_apply, map_apply, sees, expect, accept, hc.symm, hkey]

private theorem statement_entry {k x : Text} {v : Value} (hk : BareKey k) (hx : Reads x v)
    (rest : Text) :
    statement (k ++ ' ' :: '=' :: ' ' :: (x ++ '\n' :: rest)) = some (.entry [] k v, '\n' :: rest) := by
  have hkey : key (k ++ ' ' :: '=' :: ' ' :: (x ++ '\n' :: rest)) =
      some (([], k), '=' :: ' ' :: (x ++ '\n' :: rest)) := key_bare hk rfl rfl (by decide)
  obtain ⟨c, cs, rfl, hbare⟩ := hk.exists_head
  have hc : c ≠ '[' := ne_of_isBareKey hbare rfl
  rw [List.cons_append] at hkey ⊢
  have hvalue := hx rest
  rw [← List.dropWhile_cons_of_pos (p := isGap) (a := ' ') rfl] at hvalue
  simp [statement, pair, bind_apply, map_apply, sees, expect, gap, skip, hc.symm, hkey, hvalue]

private theorem lineRest_newline (rest : Text) : lineRest ('\n' :: rest) = some ((), rest) := rfl

private theorem nextLine_statement {c : Char} {s rest : Text} {st : Statement} (hgap : isGap c = false)
    (hcomment : c ≠ '#') (hnewline : c ≠ '\n') (hreturn : c ≠ '\r')
    (h : statement (c :: s) = some (st, '\n' :: rest)) (read : List Statement) :
    nextLine read (c :: s) = some (.inl (st :: read), rest) := by
  simp [nextLine, bind_apply, map_apply, gap_of_head hgap, peek, h, lineRest_newline]

private theorem nextLine_blank (rest : Text) (read : List Statement) :
    nextLine read ('\n' :: rest) = some (.inl read, rest) := rfl

private theorem nextLine_end (read : List Statement) :
    nextLine read [] = some (.inr read.reverse, []) := rfl

private theorem loop_of_plain {t : Text} {ss : List Statement} (h : Plain t ss)
    (read : List Statement) : loop read nextLine t = some (read.reverse ++ ss, []) := by
  -- Each round reads one line and shortens the text, so the bound of the loop is never reached.
  induction h generalizing read with
  | nil =>
    rw [List.append_nil]
    exact loop_of_inr (nextLine_end read)
  | blank _ ih => exact loop_of_inl (nextLine_blank _ read) (by simp) (ih read)
  | header hk _ ih =>
    refine loop_of_inl (nextLine_statement rfl (by decide) (by decide) (by decide)
      (statement_header hk _) read) ?_ ?_
    · simp
      omega
    · rw [ih]
      simp
  | @entry k x v t ss hk hx _ ih =>
    have hread := statement_entry hk hx t
    obtain ⟨c, cs, rfl, hc⟩ := hk.exists_head
    rw [List.cons_append] at hread ⊢
    refine loop_of_inl (nextLine_statement (isGap_of_isBareKey hc) (ne_of_isBareKey hc rfl)
      (ne_of_isBareKey hc rfl) (ne_of_isBareKey hc rfl) hread read) ?_ ?_
    · simp
      omega
    · rw [ih]
      simp

theorem statements_of_plain {t : Text} {ss : List Statement} (h : Plain t ss) :
    statements t = some (ss, []) := loop_of_plain h []

theorem Plain.not_marked {t : Text} {ss : List Statement} (h : Plain t ss) : t.head? ≠ some '\uFEFF' := by
  cases h with
  | nil | blank | header => simp
  | entry hk =>
    obtain ⟨c, cs, rfl, hc⟩ := hk.exists_head
    simpa using ne_of_isBareKey hc rfl

theorem parse_of_plain {t : Text} {ss : List Statement} (h : Plain t ss) :
    parse t = Entries.ofStatements ss := by
  simp [parse, whole, h.not_marked, statements_of_plain h]

end Toml
end Regimen
