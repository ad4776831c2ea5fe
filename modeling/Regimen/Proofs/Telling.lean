import Mathlib.Data.List.Nodup
import Regimen.Toml.Table

/-! What the statements of a document tell of a key, in whatever order they stand. Each statement makes the
table of the document grow along one path of keys, so what the table holds under a path is what one of the
statements says of it. Paths that lead through a list of tables are left aside: there a path means another
table after each double-bracket header. -/
namespace Regimen.Toml

/-- What a value shows from outside: all of it, or that it holds other values. -/
inductive Outline where
  | scalar (v : Value)
  | nested

namespace Value

def at? : Value → List Text → Option Value
  | v, [] => some v
  | .table _ es, k :: path => (Entries.get? es k).bind (at? · path)
  | _, _ :: _ => none

@[simp] theorem at?_nil (v : Value) : v.at? [] = some v := by
  cases v <;> rfl

@[simp] theorem at?_table (o : Origin) (es : Entries) (k : Text) (path : List Text) :
    (table o es).at? (k :: path) = (es.get? k).bind (·.at? path) := rfl

@[simp] theorem at?_tables (els : List Entries) (k : Text) (path : List Text) :
    (tables els).at? (k :: path) = none := rfl

def outline : Value → Outline
  | .array _ | .table _ _ | .tables _ => .nested
  | v => .scalar v

/-- What a value shows under a path of keys, whatever the order of its entries. -/
inductive Shows : Value → List Text → Outline → Prop where
  | here (v : Value) : Shows v [] v.outline
  | under {o : Origin} {es : Entries} {k : Text} {v : Value} {path : List Text} {x : Outline} :
      (k, v) ∈ es → Shows v path x → Shows (.table o es) (k :: path) x

def outline? (v : Value) (path : List Text) : Option Outline := (v.at? path).map outline

@[simp] theorem outline?_nil (v : Value) : v.outline? [] = some v.outline := by
  simp [outline?]

@[simp] theorem outline?_table (o : Origin) (es : Entries) (k : Text) (path : List Text) :
    (table o es).outline? (k :: path) = (es.get? k).bind (·.outline? path) := by
  cases h : es.get? k <;> simp [outline?, h]

@[simp] theorem outline?_tables (els : List Entries) (k : Text) (path : List Text) :
    (tables els).outline? (k :: path) = none := rfl

/-- Each table that a path leads to has its keys once. -/
def Distinct (v : Value) : Prop :=
  ∀ path o es, v.at? path = some (.table o es) → (es.map Prod.fst).Nodup

theorem distinct_table_iff {o : Origin} {es : Entries} :
    (table o es).Distinct ↔
      (es.map Prod.fst).Nodup ∧ ∀ k v, es.get? k = some v → v.Distinct := by
  constructor
  · intro h
    refine ⟨h [] o es rfl, fun k v hk path o' sub hsub => h (k :: path) o' sub ?_⟩
    rw [at?_table, hk]
    exact hsub
  · rintro ⟨hkeys, hvalues⟩ path o' sub hsub
    cases path with
    | nil =>
      cases hsub
      exact hkeys
    | cons k path =>
      obtain ⟨v, hk, hv⟩ := Option.bind_eq_some_iff.1 hsub
      exact hvalues k v hk path o' sub hv

theorem distinct_of_ne_table {v : Value} (h : ∀ o es, v ≠ table o es) : v.Distinct := by
  intro path o es hv
  cases path with
  | nil => exact absurd (Option.some.inj (v.at?_nil ▸ hv)) (h o es)
  | cons k path =>
    cases v with
    | table o' es' => exact absurd rfl (h o' es')
    | _ => simp [at?] at hv

end Value

namespace Entries

def at? (es : Entries) (path : List Text) : Option Value := (Value.table .header es).at? path

def outline? (es : Entries) (path : List Text) : Option Outline := (Value.table .header es).outline? path

def put (es : Entries) (k : Text) (v : Value) : Entries :=
  if (es.get? k).isSome then es.set k v else es.add k v

theorem put_of_none {es : Entries} {k : Text} (h : es.get? k = none) (v : Value) :
    es.put k v = es.add k v := by
  simp [put, h]

theorem put_of_some {es : Entries} {k : Text} {w : Value} (h : es.get? k = some w) (v : Value) :
    es.put k v = es.set k v := by
  simp [put, h]

@[simp] theorem get?_nil (k : Text) : get? [] k = none := rfl

private theorem get?_cons (k k' : Text) (v : Value) (es : Entries) :
    get? ((k, v) :: es) k' = if k' = k then some v else es.get? k' := by
  by_cases h : k' = k
  · simp [get?, h]
  · have hbeq : (k' == k) = false := by simpa using h
    simp [get?, List.lookup_cons, hbeq, h]

private theorem get?_add (es : Entries) (k k' : Text) (v : Value) :
    (es.add k v).get? k' = (es.get? k').or (if k' = k then some v else none) := by
  have hlast := get?_cons k k' v []
  rw [get?_nil] at hlast
  rw [← hlast]
  exact List.lookup_append

private theorem get?_set (es : Entries) (k k' : Text) (v : Value) :
    (es.set k v).get? k' = if k' = k then (es.get? k).map fun _ => v else es.get? k' := by
  induction es with
  | nil => simp [set]
  | cons e es ih =>
    obtain ⟨j, w⟩ := e
    have hset : set ((j, w) :: es) k v = (if j = k then (k, v) else (j, w)) :: set es k v := rfl
    rw [hset]
    by_cases hj : j = k
    · rw [if_pos hj, get?_cons, get?_cons, get?_cons, ih, hj]
      by_cases hk : k' = k <;> simp [hk]
    · rw [if_neg hj, get?_cons, get?_cons, get?_cons, ih]
      by_cases hk : k' = k
      · simp [hk, Ne.symm hj]
      · simp [hk]

@[simp] theorem get?_put (es : Entries) (k k' : Text) (v : Value) :
    (es.put k v).get? k' = if k' = k then some v else es.get? k' := by
  cases h : es.get? k with
  | none =>
    rw [put_of_none h, get?_add]
    by_cases hk : k' = k <;> simp [hk, h]
  | some w => rw [put_of_some h, get?_set, h, Option.map_some]

private theorem mem_of_get? {es : Entries} {k : Text} {v : Value} (h : es.get? k = some v) :
    (k, v) ∈ es := by
  obtain ⟨before, after, rfl, -⟩ := List.lookup_eq_some_iff.1 h
  simp

theorem get?_eq_some_iff {es : Entries} (h : (es.map Prod.fst).Nodup) {k : Text} {v : Value} :
    es.get? k = some v ↔ (k, v) ∈ es := by
  refine ⟨mem_of_get?, fun hmem => ?_⟩
  induction es with
  | nil => simp at hmem
  | cons e es ih =>
    obtain ⟨j, w⟩ := e
    obtain ⟨hfresh, hrest⟩ : j ∉ es.map Prod.fst ∧ (es.map Prod.fst).Nodup := by simpa using h
    rw [get?_cons]
    rcases List.mem_cons.1 hmem with heq | hmem
    · cases heq
      exact if_pos rfl
    · have hk : k ≠ j := fun hk => hfresh (List.mem_map.2 ⟨(k, v), hmem, hk⟩)
      rw [if_neg hk, ih hrest hmem]

inductive TableAt : Entries → Option Value → Prop where
  | missing : TableAt [] none
  | present (o : Origin) (es : Entries) : TableAt es (some (.table o es))

/-- What a statement about a path does to a table: it gives a value to a key that had none, or names a
table or one of a list of tables, along a way on which missing tables are created. -/
inductive Grows : Option Value → Entries → List Text → Entries → Prop where
  | given {es : Entries} {k : Text} {v : Value} : es.get? k = none → Grows (some v) es [k] (es.put k v)
  | named {es sub : Entries} {k : Text} {o : Origin} : TableAt sub (es.get? k) →
      Grows none es [k] (es.put k (.table o sub))
  | listed {es : Entries} {k : Text} {els : List Entries} :
      es.get? k = none ∨ (∃ old, es.get? k = some (.tables old)) →
      Grows none es [k] (es.put k (.tables els))
  | inside {w : Option Value} {es sub sub' : Entries} {k : Text} {path : List Text} {o : Origin} :
      TableAt sub (es.get? k) → Grows w sub path sub' →
      Grows w es (k :: path) (es.put k (.table o sub'))
  | beyond {w : Option Value} {es : Entries} {k j : Text} {path : List Text} {old els : List Entries} :
      es.get? k = some (.tables old) → Grows w es (k :: j :: path) (es.put k (.tables els))

theorem Grows.ne_nil {w : Option Value} {es es' : Entries} {path : List Text}
    (h : Grows w es path es') : path ≠ [] := by
  cases h <;> simp

theorem grows_assign {es es' : Entries} {path : List Text} {key : Text} {v : Value}
    (h : es.assign path key v = some es') : Grows (some v) es (path ++ [key]) es' := by
  induction path generalizing es es' with
  | nil =>
    simp only [assign] at h
    split at h
    next => simp at h
    next hnone =>
      cases h
      have hnone : es.get? key = none := by simpa using hnone
      rw [← put_of_none hnone]
      exact .given hnone
  | cons k path ih =>
    simp only [assign] at h
    split at h
    next hk =>
      obtain ⟨sub, hsub, rfl⟩ := Option.map_eq_some_iff.1 h
      rw [← put_of_none hk]
      exact .inside (hk ▸ .missing) (ih hsub)
    next sub hk =>
      obtain ⟨sub', hsub, rfl⟩ := Option.map_eq_some_iff.1 h
      rw [← put_of_some hk]
      exact .inside (hk ▸ .present ..) (ih hsub)
    next sub hk =>
      split at h
      next => simp at h
      next =>
        obtain ⟨sub', hsub, rfl⟩ := Option.map_eq_some_iff.1 h
        rw [← put_of_some hk]
        exact .inside (hk ▸ .present ..) (ih hsub)
    next els hk =>
      split at h
      next => simp at h
      next hpath =>
        obtain ⟨els', -, rfl⟩ := Option.map_eq_some_iff.1 h
        obtain ⟨j, rest, rfl⟩ := List.exists_cons_of_ne_nil hpath
        rw [← put_of_some hk]
        exact .beyond hk
    next => simp at h

private theorem grows_descend {w : Option Value} {f : Entries → Option Entries} {path : List Text}
    (hpath : path ≠ []) (hf : ∀ sub sub', f sub = some sub' → Grows w sub path sub')
    {es es' : Entries} {way : List Text} (h : es.descend f way = some es') :
    Grows w es (way ++ path) es' := by
  induction way generalizing es es' with
  | nil => exact hf es es' h
  | cons k way ih =>
    simp only [descend] at h
    split at h
    next hk =>
      obtain ⟨sub, hsub, rfl⟩ := Option.map_eq_some_iff.1 h
      rw [← put_of_none hk]
      exact .inside (hk ▸ .missing) (ih hsub)
    next => simp at h
    next o sub _ hk =>
      obtain ⟨sub', hsub, rfl⟩ := Option.map_eq_some_iff.1 h
      rw [← put_of_some hk]
      exact .inside (hk ▸ .present ..) (ih hsub)
    next els hk =>
      obtain ⟨els', -, rfl⟩ := Option.map_eq_some_iff.1 h
      obtain ⟨j, rest, hrest⟩ := List.exists_cons_of_ne_nil (List.append_ne_nil_of_right_ne_nil way hpath)
      rw [← put_of_some hk, List.cons_append, hrest]
      exact .beyond hk
    next => simp at h

private theorem grows_declare {es es' : Entries} {key : Text} (h : es.declare key = some es') :
    Grows none es [key] es' := by
  unfold declare at h
  split at h
  next hk =>
    cases h
    rw [← put_of_none hk]
    exact .named (hk ▸ .missing)
  next sub hk =>
    cases h
    rw [← put_of_some hk]
    exact .named (hk ▸ .present ..)
  next => simp at h

private theorem grows_extend {es es' : Entries} {key : Text} (h : es.extend key = some es') :
    Grows none es [key] es' := by
  unfold extend at h
  split at h
  next hk =>
    cases h
    rw [← put_of_none hk]
    exact .listed (.inl hk)
  next els hk =>
    cases h
    rw [← put_of_some hk]
    exact .listed (.inr ⟨els, hk⟩)
  next => simp at h

private theorem grows_atLast {f : Entries → Text → Option Entries}
    (hf : ∀ sub sub' key, f sub key = some sub' → Grows none sub [key] sub')
    {es es' : Entries} {path : List Text} (h : es.atLast f path = some es') :
    Grows none es path es' := by
  unfold atLast at h
  split at h
  next => simp at h
  next key hkey =>
    have hgrows := grows_descend (List.cons_ne_nil key []) (fun sub sub' => hf sub sub' key) h
    rwa [List.dropLast_append_getLast? key hkey] at hgrows

/-- The path leads through no list of tables. -/
def Clear (es : Entries) (path : List Text) : Prop :=
  ∀ way els, way <+: path → way ≠ path → es.at? way ≠ some (.tables els)

end Entries

/-- What a statement says: the full path of what it is about, and the value that it gives there. A header
gives none. -/
structure Fact where
  path : List Text
  value : Option Value

/-- What a statement tells of a key: what the given value shows of it, or that it holds other values
because it is named by a header or leads on to what the statement is about. -/
inductive Fact.Tells : Fact → List Text → Outline → Prop where
  | given {path rest : List Text} {v : Value} {x : Outline} :
      v.Shows rest x → Tells ⟨path, some v⟩ (path ++ rest) x
  | named {path : List Text} : Tells ⟨path, none⟩ path .nested
  | around {path rest : List Text} {w : Option Value} : rest ≠ [] → Tells ⟨path ++ rest, w⟩ path .nested

namespace Fact

theorem tells_iff {path : List Text} {w : Option Value} {p : List Text} {x : Outline} :
    Tells ⟨path, w⟩ p x ↔
      (∃ v rest, w = some v ∧ p = path ++ rest ∧ v.Shows rest x) ∨
      x = .nested ∧ (w = none ∧ p = path ∨ ∃ rest, rest ≠ [] ∧ path = p ++ rest) := by
  constructor
  · intro h
    cases h with
    | given hv => exact .inl ⟨_, _, rfl, rfl, hv⟩
    | named => exact .inr ⟨rfl, .inl ⟨rfl, rfl⟩⟩
    | around hrest => exact .inr ⟨rfl, .inr ⟨_, hrest, rfl⟩⟩
  · rintro (⟨v, rest, rfl, rfl, hv⟩ | ⟨rfl, ⟨rfl, rfl⟩ | ⟨rest, hrest, rfl⟩⟩)
    · exact .given hv
    · exact .named
    · exact .around hrest

private theorem tells_nil_some {v : Value} {p : List Text} {x : Outline} :
    Tells ⟨[], some v⟩ p x ↔ v.Shows p x := by
  simp [tells_iff]

private theorem tells_nil_none {p : List Text} {x : Outline} :
    Tells ⟨[], none⟩ p x ↔ p = [] ∧ x = .nested := by
  simp [tells_iff, and_comm]

private theorem tells_cons_nil {k : Text} {path : List Text} {w : Option Value} {x : Outline} :
    Tells ⟨k :: path, w⟩ [] x ↔ x = .nested := by
  simp [tells_iff]

private theorem tells_cons_cons {k j : Text} {path p : List Text} {w : Option Value} {x : Outline} :
    Tells ⟨k :: path, w⟩ (j :: p) x ↔ j = k ∧ Tells ⟨path, w⟩ p x := by
  rw [tells_iff, tells_iff]
  by_cases h : j = k
  · simp [h]
  · simp [h, Ne.symm h]

end Fact

namespace Value

private theorem shows_iff {v : Value} (h : v.Distinct) {p : List Text} {x : Outline} :
    v.Shows p x ↔ v.outline? p = some x := by
  induction p generalizing v with
  | nil =>
    rw [outline?_nil, Option.some_inj]
    exact ⟨fun hv => by cases hv; rfl, fun hv => hv ▸ .here v⟩
  | cons k p ih =>
    cases v with
    | table o es =>
      obtain ⟨hkeys, hvalues⟩ := distinct_table_iff.1 h
      rw [outline?_table, Option.bind_eq_some_iff]
      constructor
      · intro hv
        cases hv with
        | under hmem hshows =>
          have hk := (Entries.get?_eq_some_iff hkeys).2 hmem
          exact ⟨_, hk, (ih (hvalues k _ hk)).1 hshows⟩
      · rintro ⟨v, hk, hv⟩
        exact .under (Entries.mem_of_get? hk) ((ih (hvalues k v hk)).2 hv)
    | _ =>
      constructor
      · intro hv
        cases hv
      · intro hv
        simp [outline?, at?] at hv

end Value

namespace Entries

@[simp] theorem outline?_cons (es : Entries) (k : Text) (p : List Text) :
    es.outline? (k :: p) = (es.get? k).bind (·.outline? p) := Value.outline?_table .header es k p

private theorem TableAt.outline?_cons {sub : Entries} {old : Option Value} (h : TableAt sub old)
    (k : Text)
    (p : List Text) : old.bind (·.outline? (k :: p)) = (sub.get? k).bind (·.outline? p) := by
  cases h with
  | missing => rfl
  | present o => exact Value.outline?_table o sub k p

private theorem TableAt.outline?_nil {sub : Entries} {old : Option Value} (h : TableAt sub old)
    (x : Outline) :
    some Outline.nested = some x ↔ old.bind (·.outline? []) = some x ∨ x = .nested := by
  cases h <;> simp [Value.outline, eq_comm]

theorem Clear.tail {es sub : Entries} {k : Text} {p : List Text} {o : Origin}
    (h : es.Clear (k :: p)) (hk : es.get? k = some (.table o sub)) : sub.Clear p := by
  intro way els hway hne hlist
  refine h (k :: way) els (by simpa using hway) (by simpa using hne) ?_
  cases way with
  | nil => simp [at?] at hlist
  | cons j way => simpa [at?, hk] using hlist

private theorem outline?_put_iff {es : Entries} {k j : Text} {v : Value} {p : List Text}
    {x : Outline} {told : Prop}
    (h : j = k → (v.outline? p = some x ↔ (es.get? k).bind (·.outline? p) = some x ∨ told)) :
    (es.put k v).outline? (j :: p) = some x ↔ es.outline? (j :: p) = some x ∨ j = k ∧ told := by
  by_cases hj : j = k
  · subst hj
    simpa using h rfl
  · simp [hj]

private theorem outline?_grows {w : Option Value} {es es' : Entries} {path p : List Text} {x : Outline}
    (h : Grows w es path es') (hw : ∀ v, w = some v → v.Distinct) (hp : p ≠ []) (hclear : es'.Clear p) :
    es'.outline? p = some x ↔ es.outline? p = some x ∨ Fact.Tells ⟨path, w⟩ p x := by
  -- Under the key that changes, the cases differ in what stood there; a list of tables ends the path.
  induction h generalizing p with
  | @given es k v hk =>
    obtain ⟨j, p, rfl⟩ := List.exists_cons_of_ne_nil hp
    rw [Fact.tells_cons_cons, Fact.tells_nil_some, Value.shows_iff (hw v rfl)]
    refine outline?_put_iff fun _ => ?_
    simp [hk]
  | @named es sub k o hk =>
    obtain ⟨j, p, rfl⟩ := List.exists_cons_of_ne_nil hp
    rw [Fact.tells_cons_cons, Fact.tells_nil_none]
    refine outline?_put_iff fun _ => ?_
    cases p with
    | nil => simpa [Value.outline] using hk.outline?_nil x
    | cons i p => simp [hk.outline?_cons]
  | @listed es k els hk =>
    obtain ⟨j, p, rfl⟩ := List.exists_cons_of_ne_nil hp
    rw [Fact.tells_cons_cons, Fact.tells_nil_none]
    refine outline?_put_iff fun _ => ?_
    cases p with
    | nil => rcases hk with hk | ⟨old, hk⟩ <;> simp [hk, Value.outline, eq_comm]
    | cons i p => rcases hk with hk | ⟨old, hk⟩ <;> simp [hk]
  | @inside w es sub sub' k path o hk hsub ih =>
    obtain ⟨j, p, rfl⟩ := List.exists_cons_of_ne_nil hp
    rw [Fact.tells_cons_cons]
    refine outline?_put_iff ?_
    rintro rfl
    cases p with
    | nil =>
      obtain ⟨i, path, rfl⟩ := List.exists_cons_of_ne_nil hsub.ne_nil
      rw [Fact.tells_cons_nil]
      exact hk.outline?_nil x
    | cons i p =>
      have hsub := ih hw (List.cons_ne_nil i p) (hclear.tail (o := o) (by simp))
      rw [hk.outline?_cons]
      simpa using hsub
  | @beyond w es k i path old els hk =>
    obtain ⟨j, p, rfl⟩ := List.exists_cons_of_ne_nil hp
    rw [Fact.tells_cons_cons]
    refine outline?_put_iff ?_
    rintro rfl
    cases p with
    | nil => simp [hk, Fact.tells_cons_nil, Value.outline, eq_comm]
    | cons l p => exact absurd (by simp [at?]) (hclear [j] els (by simp) (by simp))

private theorem TableAt.at?_cons {sub : Entries} {old : Option Value} (h : TableAt sub old) (k : Text)
    (p : List Text) : old.bind (·.at? (k :: p)) = sub.at? (k :: p) := by
  cases h <;> rfl

private theorem TableAt.ne_list {sub : Entries} {old : Option Value} (h : TableAt sub old)
    (els : List Entries) : old ≠ some (.tables els) := by
  cases h <;> simp

private theorem exists_cons_of_list {es : Entries} {p : List Text} {els : List Entries}
    (h : es.at? p = some (.tables els)) : ∃ k rest, p = k :: rest := by
  cases p with
  | nil => simp [at?] at h
  | cons k rest => exact ⟨k, rest, rfl⟩

private theorem exists_list_put {es : Entries} {k j : Text} {v : Value} {p : List Text}
    {els : List Entries}
    (h : (es.get? k).bind (·.at? p) = some (.tables els) → ∃ els', v.at? p = some (.tables els'))
    (hold : es.at? (j :: p) = some (.tables els)) :
    ∃ els', (es.put k v).at? (j :: p) = some (.tables els') := by
  by_cases hj : j = k
  · subst hj
    simpa [at?] using h hold
  · exact ⟨els, by simpa [at?, hj] using hold⟩

private theorem exists_list_grows {w : Option Value} {es es' : Entries} {path p : List Text}
    {els : List Entries} (h : Grows w es path es') (hold : es.at? p = some (.tables els)) :
    ∃ els', es'.at? p = some (.tables els') := by
  induction h generalizing p with
  | @given es k v hk =>
    obtain ⟨j, p, rfl⟩ := exists_cons_of_list hold
    refine exists_list_put (fun hlist => ?_) hold
    simp [hk] at hlist
  | @named es sub k o hk =>
    obtain ⟨j, p, rfl⟩ := exists_cons_of_list hold
    refine exists_list_put (fun hlist => ?_) hold
    cases p with
    | nil => exact absurd (by simpa using hlist) (hk.ne_list els)
    | cons i p => exact ⟨els, by rw [hk.at?_cons] at hlist; exact hlist⟩
  | @listed es k els' hk =>
    obtain ⟨j, p, rfl⟩ := exists_cons_of_list hold
    refine exists_list_put (fun hlist => ?_) hold
    cases p with
    | nil => exact ⟨els', rfl⟩
    | cons i p => rcases hk with hk | ⟨old, hk⟩ <;> simp [hk] at hlist
  | @inside w es sub sub' k path o hk _ ih =>
    obtain ⟨j, p, rfl⟩ := exists_cons_of_list hold
    refine exists_list_put (fun hlist => ?_) hold
    cases p with
    | nil => exact absurd (by simpa using hlist) (hk.ne_list els)
    | cons i p => exact ih (hk.at?_cons i p ▸ hlist)
  | @beyond w es k i path old els' hk =>
    obtain ⟨j, p, rfl⟩ := exists_cons_of_list hold
    refine exists_list_put (fun hlist => ?_) hold
    cases p with
    | nil => exact ⟨els', rfl⟩
    | cons i p => simp [hk] at hlist

private theorem Clear.of_grows {w : Option Value} {es es' : Entries} {path p : List Text}
    (hclear : es'.Clear p) (h : Grows w es path es') : es.Clear p := by
  intro way els hway hne hlist
  obtain ⟨els', hlist'⟩ := exists_list_grows h hlist
  exact hclear way els' hway hne hlist'

end Entries

namespace Statement

def fact (header : List Text) : Statement → Fact
  | .table path | .element path => ⟨path, none⟩
  | .entry path key v => ⟨header ++ (path ++ [key]), some v⟩

def header (before : List Text) : Statement → List Text
  | .table path | .element path => path
  | .entry _ _ _ => before

end Statement

def facts (header : List Text) : List Statement → List Fact
  | [] => []
  | s :: rest => s.fact header :: facts (s.header header) rest

def Tells (header : List Text) (statements : List Statement) (path : List Text) (x : Outline) : Prop :=
  ∃ f ∈ facts header statements, f.Tells path x

theorem not_tells_nil {header path : List Text} {x : Outline} : ¬ Tells header [] path x := by
  simp [Tells, facts]

theorem tells_cons {header path : List Text} {s : Statement} {rest : List Statement} {x : Outline} :
    Tells header (s :: rest) path x ↔
      (s.fact header).Tells path x ∨ Tells (s.header header) rest path x := by
  simp [Tells, facts]

namespace Entries

private theorem collect_cons {es es' : Entries} {header : List Text} {s : Statement}
    {rest : List Statement} (h : es.collect header (s :: rest) = some es') :
    ∃ mid, Grows (s.fact header).value es (s.fact header).path mid ∧
      collect mid (s.header header) rest = some es' := by
  cases s with
  | table path =>
    obtain ⟨mid, hmid, hrest⟩ := Option.bind_eq_some_iff.1 h
    exact ⟨mid, grows_atLast (fun _ _ _ => grows_declare) hmid, hrest⟩
  | element path =>
    obtain ⟨mid, hmid, hrest⟩ := Option.bind_eq_some_iff.1 h
    exact ⟨mid, grows_atLast (fun _ _ _ => grows_extend) hmid, hrest⟩
  | entry path key v =>
    obtain ⟨mid, hmid, hrest⟩ := Option.bind_eq_some_iff.1 h
    exact ⟨mid, grows_descend (by simp) (fun _ _ => grows_assign) hmid, hrest⟩

private theorem Clear.of_collect {es es' : Entries} {header p : List Text} {rest : List Statement}
    (hclear : es'.Clear p) (h : es.collect header rest = some es') : es.Clear p := by
  induction rest generalizing es header with
  | nil =>
    cases h
    exact hclear
  | cons s rest ih =>
    obtain ⟨mid, hgrows, hrest⟩ := collect_cons h
    exact (ih hrest).of_grows hgrows

private theorem outline?_collect {es es' : Entries} {header p : List Text} {rest : List Statement}
    {x : Outline} (h : es.collect header rest = some es')
    (hvalues : ∀ f ∈ facts header rest, ∀ v, f.value = some v → v.Distinct) (hp : p ≠ [])
    (hclear : es'.Clear p) :
    es'.outline? p = some x ↔ es.outline? p = some x ∨ Tells header rest p x := by
  induction rest generalizing es header with
  | nil =>
    cases h
    simp [not_tells_nil]
  | cons s rest ih =>
    obtain ⟨mid, hgrows, hrest⟩ := collect_cons h
    rw [facts] at hvalues
    have hmid := outline?_grows (x := x) hgrows (hvalues _ (by simp)) hp (hclear.of_collect hrest)
    rw [ih hrest fun f hf => hvalues f (by simp [hf]), hmid, tells_cons, or_assoc]

/-- What the table of a document holds under a path is what its statements tell of it. -/
theorem outline?_iff_tells {statements : List Statement} {es : Entries} {p : List Text} {x : Outline}
    (h : ofStatements statements = some es)
    (hvalues : ∀ f ∈ facts [] statements, ∀ v, f.value = some v → v.Distinct) (hp : p ≠ [])
    (hclear : es.Clear p) : es.outline? p = some x ↔ Tells [] statements p x := by
  rw [outline?_collect h hvalues hp hclear]
  obtain ⟨k, p, rfl⟩ := List.exists_cons_of_ne_nil hp
  simp

end Entries
end Regimen.Toml
