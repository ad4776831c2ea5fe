import Regimen.Proofs.Reading
import Regimen.Proofs.Telling

/-! Every table that is read has each of its keys once, since a key that is given twice is refused. -/
namespace Regimen

namespace Reader

/-- Whatever the reader reads has the property. -/
def Ensures (r : Reader α) (P : α → Prop) : Prop := ∀ s a t, r s = some (a, t) → P a

private theorem ensures_true (r : Reader α) : Ensures r fun _ => True := fun _ _ _ _ => trivial

private theorem ensures_refuse {P : α → Prop} : Ensures refuse P := by
  intro s a t h
  simp [refuse] at h

private theorem ensures_pure {P : α → Prop} {a : α} (h : P a) : Ensures (pure a) P := by
  intro s b t hb
  cases hb
  exact h

theorem Ensures.bind {r : Reader α} {f : α → Reader β} {P : α → Prop} {Q : β → Prop} (hr : Ensures r P)
    (hf : ∀ a, P a → Ensures (f a) Q) : Ensures (r >>= f) Q := by
  intro s b u h
  rw [bind_apply] at h
  obtain ⟨⟨a, t⟩, ha, hb⟩ := Option.bind_eq_some_iff.1 h
  exact hf a (hr s a t ha) t b u hb

private theorem ensures_bind {r : Reader α} {f : α → Reader β} {Q : β → Prop}
    (hf : ∀ a, Ensures (f a) Q) : Ensures (r >>= f) Q := (ensures_true r).bind fun a _ => hf a

private theorem ensures_ite {c : Prop} [Decidable c] {r r' : Reader α} {P : α → Prop} (h : Ensures r P)
    (h' : Ensures r' P) : Ensures (if c then r else r') P := by
  split
  · exact h
  · exact h'

private theorem ensures_loop {step : σ → Reader (σ ⊕ α)} {I : σ → Prop} {P : α → Prop}
    (hstep : ∀ a, I a → Ensures (step a) (Sum.elim I P)) {start : σ} (hstart : I start) :
    Ensures (loop start step) P := by
  have hrounds : ∀ bound a, I a → Ensures (rounds step bound a) P := by
    intro bound
    induction bound with
    | nil =>
      intro a ha
      refine (hstep a ha).bind fun next hnext => ?_
      cases next with
      | inl b => exact ensures_refuse
      | inr r => exact ensures_pure hnext
    | cons c bound ih =>
      intro a ha
      refine (hstep a ha).bind fun next hnext => ?_
      cases next with
      | inl b => exact ih b hnext
      | inr r => exact ensures_pure hnext
  intro s
  exact hrounds s start hstart s

end Reader

namespace Toml
open Reader

namespace Entries

private theorem keys_set (es : Entries) (k : Text) (v : Value) :
    (set es k v).map Prod.fst = es.map Prod.fst := by
  rw [set, List.map_map]
  apply List.map_congr_left
  intro e _
  by_cases h : e.1 = k <;> simp [h]

private theorem nodup_put {es : Entries} (h : (es.map Prod.fst).Nodup) (k : Text) (v : Value) :
    ((es.put k v).map Prod.fst).Nodup := by
  cases hk : es.get? k with
  | some w =>
    rw [put_of_some hk, keys_set]
    exact h
  | none =>
    have hfresh : k ∉ es.map Prod.fst := by
      intro hmem
      obtain ⟨⟨j, w⟩, hw, rfl⟩ := List.mem_map.1 hmem
      simp [(get?_eq_some_iff h).2 hw] at hk
    rw [put_of_none hk, add, List.map_append, List.nodup_append]
    refine ⟨h, List.nodup_singleton k, ?_⟩
    rintro a ha b hb rfl
    have hak : a = k := List.mem_singleton.1 hb
    exact hfresh (hak ▸ ha)

private theorem distinct_put {o : Origin} {es : Entries} (hes : (Value.table o es).Distinct) {v : Value}
    (hv : v.Distinct) (k : Text) : (Value.table o (es.put k v)).Distinct := by
  obtain ⟨hkeys, hvalues⟩ := Value.distinct_table_iff.1 hes
  refine Value.distinct_table_iff.2 ⟨nodup_put hkeys k v, fun j u hu => ?_⟩
  rw [get?_put] at hu
  split at hu
  next =>
    cases hu
    exact hv
  next => exact hvalues j u hu

private theorem distinct_nil (o : Origin) : (Value.table o []).Distinct :=
  Value.distinct_table_iff.2 ⟨List.nodup_nil, by simp⟩

private theorem TableAt.distinct {sub : Entries} {old : Option Value} (h : TableAt sub old)
    (hold : ∀ v, old = some v → v.Distinct) (o : Origin) : (Value.table o sub).Distinct := by
  cases h with
  | missing => exact distinct_nil o
  | present o' => exact Value.distinct_table_iff.2 (Value.distinct_table_iff.1 (hold _ rfl))

private theorem distinct_grows {w : Option Value} {es es' : Entries} {path : List Text} {o : Origin}
    (h : Grows w es path es') (hw : ∀ v, w = some v → v.Distinct) (hes : (Value.table o es).Distinct) :
    (Value.table o es').Distinct := by
  induction h generalizing o with
  | @given es k v hk => exact distinct_put hes (hw v rfl) k
  | @named es sub k o' hk =>
    have hold := (Value.distinct_table_iff.1 hes).2 k
    exact distinct_put hes (hk.distinct hold o') k
  | @listed es k els hk => exact distinct_put hes (Value.distinct_of_ne_table (by simp)) k
  | @inside w es sub sub' k path o' hk _ ih =>
    have hold := (Value.distinct_table_iff.1 hes).2 k
    exact distinct_put hes (ih hw (hk.distinct hold o')) k
  | @beyond w es k i path old els hk => exact distinct_put hes (Value.distinct_of_ne_table (by simp)) k

private theorem distinct_foldlM {pairs : List (List Text × Text × Value)} {start es : Entries}
    {o : Origin} (hvalues : ∀ p ∈ pairs, p.2.2.Distinct) (hstart : (Value.table o start).Distinct)
    (h : pairs.foldlM (fun es p => assign es p.1 p.2.1 p.2.2) start = some es) :
    (Value.table o es).Distinct := by
  induction pairs generalizing start with
  | nil =>
    cases h
    exact hstart
  | cons p pairs ih =>
    rw [List.foldlM_cons] at h
    obtain ⟨mid, hmid, hrest⟩ := Option.bind_eq_some_iff.1 h
    refine ih (fun q hq => hvalues q (by simp [hq])) ?_ hrest
    refine distinct_grows (grows_assign hmid) ?_ hstart
    intro v hv
    cases hv
    exact hvalues p (by simp)

private theorem distinct_ofPairs {pairs : List (List Text × Text × Value)} {es : Entries}
    (h : ofPairs pairs = some es) (hvalues : ∀ p ∈ pairs, p.2.2.Distinct) (o : Origin) :
    (Value.table o es).Distinct :=
  distinct_foldlM hvalues (distinct_nil o) h

end Entries

private theorem ensures_pure_flat {v : Value} (h : ∀ o es, v ≠ .table o es) :
    Ensures (pure v) Value.Distinct :=
  ensures_pure (Value.distinct_of_ne_table h)

private theorem ensures_boundedInteger (negative : Bool) (n : Nat) :
    Ensures (boundedInteger negative n) Value.Distinct := by
  have hinteger : ∀ n : Int, Ensures (pure (.integer n)) Value.Distinct :=
    fun n => ensures_pure_flat (by simp)
  exact ensures_ite (ensures_ite (hinteger _) ensures_refuse) (ensures_ite (hinteger _) ensures_refuse)

private theorem ensures_decimal : Ensures decimal Value.Distinct := by
  refine ensures_bind fun s => ensures_bind fun d => ?_
  refine ensures_ite (ensures_boundedInteger _ _) (ensures_ite ensures_refuse ?_)
  exact ensures_bind fun rest => ensures_pure_flat (by simp)

private theorem ensures_based (base : Nat) (p : Char → Bool) : Ensures (based base p) Value.Distinct :=
  ensures_bind fun _ => ensures_bind fun ds => ensures_boundedInteger false (ofDigits base ds)

private theorem ensures_number : Ensures number Value.Distinct := by
  refine ensures_bind fun _ => ensures_ite (ensures_based _ _) ?_
  refine ensures_bind fun _ => ensures_ite (ensures_based _ _) ?_
  refine ensures_bind fun _ => ensures_ite (ensures_based _ _) ?_
  refine ensures_bind fun s => ensures_ite ?_ ensures_decimal
  exact ensures_bind fun w => ensures_pure_flat (by simp)

private theorem ensures_truth : Ensures truth Value.Distinct := by
  refine ensures_bind fun _ => ensures_ite (ensures_pure_flat (by simp)) ?_
  exact ensures_bind fun _ => ensures_pure_flat (by simp)

private theorem ensures_scalar : Ensures scalar Value.Distinct := by
  refine ensures_bind fun s => ?_
  split
  next => exact ensures_refuse
  next c _ =>
    refine ensures_ite (ensures_bind fun t => ensures_pure_flat (by simp)) ?_
    refine ensures_ite ensures_truth (ensures_ite ?_ ensures_number)
    exact ensures_bind fun t => ensures_pure_flat (by simp)

private theorem ensures_pair {r : Reader Value} (hr : Ensures r Value.Distinct) :
    Ensures (pair r) fun p => p.2.2.Distinct := by
  refine ensures_bind fun k => ?_
  refine ensures_bind fun _ => ?_
  refine ensures_bind fun _ => ?_
  exact hr.bind fun v hv => ensures_pure hv

private theorem ensures_pairs {r : Reader Value} (hr : Ensures r Value.Distinct) :
    Ensures (pairs r) fun ps => ∀ p ∈ ps, p.2.2.Distinct := by
  refine ensures_bind fun _ => ensures_bind fun closed => ensures_ite (ensures_pure (by simp)) ?_
  refine ensures_loop (I := fun ps => ∀ p ∈ ps, p.2.2.Distinct) (fun read hread => ?_) (by simp)
  refine (ensures_pair hr).bind fun p hp => ensures_bind fun _ => ensures_bind fun more => ?_
  have hall : ∀ q ∈ p :: read, q.2.2.Distinct := List.forall_mem_cons.2 ⟨hp, hread⟩
  refine ensures_ite (ensures_pure hall) (ensures_bind fun _ => ensures_pure ?_)
  exact fun q hq => hall q (List.mem_reverse.1 hq)

private theorem ensures_value (depth : Nat) : Ensures (value depth) Value.Distinct := by
  induction depth with
  | zero => exact ensures_scalar
  | succ depth ih =>
    unfold value
    refine ensures_bind fun array => ?_
    refine ensures_ite (ensures_bind fun _ => ensures_pure_flat (by simp)) ?_
    refine ensures_bind fun table => ?_
    refine ensures_ite ((ensures_pairs ih).bind fun ps hps => ?_) ensures_scalar
    split
    next es hes => exact ensures_pure (Entries.distinct_ofPairs hes hps .inline)
    next => exact ensures_refuse

def Statement.Distinct (s : Statement) : Prop := ∀ path key v, s = .entry path key v → v.Distinct

private theorem ensures_header : Ensures header Statement.Distinct := by
  refine ensures_bind fun _ => ensures_bind fun double => ensures_ite ?_ ?_
  all_goals
    refine ensures_bind fun k => ensures_bind fun _ => ensures_pure ?_
    intro path key v h
    cases h

private theorem ensures_statement : Ensures statement Statement.Distinct := by
  refine ensures_bind fun bracket => ensures_ite ensures_header ?_
  refine (ensures_pair (ensures_value maxNesting)).bind fun p hp => ensures_pure ?_
  rintro path key v h
  cases h
  exact hp

private theorem ensures_nextLine {read : List Statement} (hread : ∀ s ∈ read, s.Distinct) :
    Ensures (nextLine read)
      (Sum.elim (fun ss => ∀ s ∈ ss, s.Distinct) fun ss => ∀ s ∈ ss, s.Distinct) := by
  refine ensures_bind fun _ => ensures_bind fun c => ?_
  split
  next => exact ensures_pure fun s hs => hread s (List.mem_reverse.1 hs)
  next => exact ensures_bind fun _ => ensures_pure hread
  next => exact ensures_bind fun _ => ensures_pure hread
  next => exact ensures_bind fun _ => ensures_pure hread
  next =>
    refine ensures_statement.bind fun s hs => ensures_bind fun _ => ensures_pure ?_
    exact List.forall_mem_cons.2 ⟨hs, hread⟩

theorem ensures_statements : Ensures statements fun ss => ∀ s ∈ ss, s.Distinct :=
  ensures_loop (fun _ hread => ensures_nextLine hread) (by simp)

theorem distinct_of_mem_facts {ss : List Statement} (h : ∀ s ∈ ss, s.Distinct) {header : List Text}
    {f : Fact} (hf : f ∈ facts header ss) {v : Value} (hv : f.value = some v) : v.Distinct := by
  induction ss generalizing header with
  | nil => simp [facts] at hf
  | cons s ss ih =>
    rcases List.mem_cons.1 hf with rfl | hf
    · cases s with
      | table | element => simp [Statement.fact] at hv
      | entry path key w =>
        cases hv
        exact h _ List.mem_cons_self path key v rfl
    · exact ih (fun s hs => h s (by simp [hs])) hf

end Toml
end Regimen
