import Regimen.Proofs.DistinctKeys
import Regimen.Settings.Toml

/-! Settings are decoded from three keys of a document. What else the document holds, how its sections are
spelled and in which order its keys and sections stand does not matter. -/
namespace Regimen

namespace Toml
open Reader

def statements? (t : Text) : Option (List Statement) :=
  whole statements (if t.head? = some '\uFEFF' then t.drop 1 else t)

private theorem parse_eq_some_iff {t : Text} {es : Entries} :
    parse t = some es ↔ ∃ ss, statements? t = some ss ∧ Entries.ofStatements ss = some es :=
  Option.bind_eq_some_iff

private theorem distinct_of_statements? {t : Text} {ss : List Statement} (h : statements? t = some ss) :
    ∀ s ∈ ss, s.Distinct := by
  unfold statements? whole at h
  split at h
  next ss' hread =>
    cases h
    exact ensures_statements _ _ _ hread
  next => simp at h

private theorem statements?_of_plain {t : Text} {ss : List Statement} (h : Plain t ss) :
    statements? t = some ss := by
  simp [statements?, whole, h.not_marked, statements_of_plain h]

/-- The same value with the keys of a table in it in another order. -/
inductive Value.Reordered : Value → Value → Prop where
  | keys {o : Origin} {es es' : Entries} : es.Perm es' → Reordered (.table o es) (.table o es')
  | entry {o : Origin} {before after : Entries} {k : Text} {v v' : Value} : Reordered v v' →
      Reordered (.table o (before ++ (k, v) :: after)) (.table o (before ++ (k, v') :: after))
  | item {before after : List Value} {v v' : Value} : Reordered v v' →
      Reordered (.array (before ++ v :: after)) (.array (before ++ v' :: after))

theorem Value.Reordered.symm {v v' : Value} (h : Reordered v v') : Reordered v' v := by
  induction h with
  | keys hperm => exact .keys hperm.symm
  | entry _ ih => exact .entry ih
  | item _ ih => exact .item ih

theorem Value.Reordered.shows {v v' : Value} (h : Reordered v v') {p : List Text} {x : Outline}
    (hv : v.Shows p x) : v'.Shows p x := by
  induction h generalizing p with
  | @keys o es es' hperm =>
    cases hv with
    | here => exact .here (.table o es')
    | under hmem hu => exact .under (hperm.mem_iff.1 hmem) hu
  | @entry o before after k v v' _ ih =>
    cases hv with
    | here => exact .here (.table o _)
    | @under _ _ j u _ _ hmem hu =>
      rcases List.mem_append.1 hmem with hmem | hmem
      · exact .under (List.mem_append_left _ hmem) hu
      · rcases List.mem_cons.1 hmem with heq | hmem
        · cases heq
          exact .under (List.mem_append_right _ List.mem_cons_self) (ih hu)
        · exact .under (List.mem_append_right _ (List.mem_cons_of_mem _ hmem)) hu
  | @item before after =>
    cases hv with
    | here => exact .here (.array _)

def Statement.isHeader : Statement → Bool
  | .table _ | .element _ => true
  | .entry _ _ _ => false

/-- The statements are whole sections, each with its header. -/
def Sections (ss : List Statement) : Prop := ∀ s, ss.head? = some s → s.isHeader = true

/-- The same statements in another order of keys and sections. -/
inductive Reordered : List Statement → List Statement → Prop where
  | keys (before after : List Statement) {path path' : List Text} {key key' : Text} {v v' : Value} :
      Reordered (before ++ .entry path key v :: .entry path' key' v' :: after)
        (before ++ .entry path' key' v' :: .entry path key v :: after)
  | sections (before first second after : List Statement) : Sections first → Sections second →
      Sections after → Reordered (before ++ (first ++ (second ++ after)))
        (before ++ (second ++ (first ++ after)))
  | inline {before after : List Statement} {path : List Text} {key : Text} {v v' : Value} :
      v.Reordered v' →
      Reordered (before ++ .entry path key v :: after) (before ++ .entry path key v' :: after)
  | trans {ss ss' ss'' : List Statement} : Reordered ss ss' → Reordered ss' ss'' → Reordered ss ss''

private theorem tells_append {header path : List Text} {ss ss' : List Statement} {x : Outline} :
    Tells header (ss ++ ss') path x ↔
      Tells header ss path x ∨ Tells (ss.foldl (fun h s => s.header h) header) ss' path x := by
  induction ss generalizing header with
  | nil => simp [not_tells_nil]
  | cons s ss ih => simp [tells_cons, ih, or_assoc]

private theorem tells_of_sections {ss : List Statement} (h : Sections ss) (header header' : List Text)
    {path : List Text} {x : Outline} : Tells header ss path x ↔ Tells header' ss path x := by
  cases ss with
  | nil => simp [not_tells_nil]
  | cons s ss =>
    cases s with
    | table | element => rfl
    | entry => simp [Sections, Statement.isHeader] at h

theorem Value.Reordered.tells {v v' : Value} (h : v.Reordered v') {path p : List Text} {x : Outline}
    (hv : Fact.Tells ⟨path, some v⟩ p x) : Fact.Tells ⟨path, some v'⟩ p x := by
  cases hv with
  | given hshows => exact .given (h.shows hshows)
  | around hrest => exact .around hrest

theorem Reordered.tells_iff {ss ss' : List Statement} (h : Reordered ss ss') {p : List Text} {x : Outline} :
    Tells [] ss p x ↔ Tells [] ss' p x := by
  induction h with
  | keys =>
    rw [tells_append, tells_append, tells_cons, tells_cons, tells_cons, tells_cons]
    exact or_congr_right or_left_comm
  | sections before first second after hfirst hsecond hafter =>
    simp only [tells_append, tells_of_sections hfirst _ [], tells_of_sections hsecond _ [],
      tells_of_sections hafter _ []]
    exact or_congr_right or_left_comm
  | inline hv =>
    rw [tells_append, tells_append, tells_cons, tells_cons]
    exact or_congr_right (or_congr_left ⟨hv.tells, hv.symm.tells⟩)
  | trans _ _ ih ih' => exact ih.trans ih'

namespace Entries

/-- The key has nothing, or a table of whatever spelling. -/
def IsSection (es : Entries) (k : Text) : Prop :=
  es.get? k = none ∨ ∃ o sub, es.get? k = some (.table o sub)

theorem IsSection.clear {es : Entries} {k : Text} (h : es.IsSection k) (j : Text) : es.Clear [k, j] := by
  intro way els hway hne hlist
  match way, hway with
  | [], _ => simp [at?] at hlist
  | [i], hway =>
    obtain rfl : i = k := by simpa using hway
    rcases h with h | ⟨o, sub, h⟩ <;> simp [at?, h] at hlist
  | [_, _], hway => exact hne (hway.eq_of_length rfl)
  | _ :: _ :: _ :: _, hway => simpa using hway.length_le

private theorem IsSection.fieldOr_eq {α : Type} {es : Entries} {k : Text} (h : es.IsSection k)
    {ofFields : (Text → Nat → Option Value) → Option α} {default : α}
    (hdefault : ofFields (fun _ _ => none) = some default) :
    fieldOr (fun v => v.fields?.bind ofFields) default (es.get? k) =
      ofFields fun name _ => es.at? [k, name] := by
  rcases h with h | ⟨o, sub, h⟩
  · simp [fieldOr, at?, h, hdefault]
  · simp [fieldOr, at?, h, Value.fields?]

end Entries

/-- The field is missing and the setting has its default, or the field gives the setting. -/
def Stands {α : Type} (v : Option Value) (make : α → Value) (default a : α) : Prop :=
  v = none ∧ a = default ∨ v = some (make a)

private theorem fieldOr_eq_some_iff {α : Type} {decode : Value → Option α} {make : α → Value}
    (h : ∀ w a, decode w = some a ↔ w = make a) {v : Option Value} {default a : α} :
    fieldOr decode default v = some a ↔ Stands v make default a := by
  cases v <;> simp [fieldOr, Stands, h, eq_comm]

private theorem truth?_eq_some_iff (v : Value) (b : Bool) : v.truth? = some b ↔ v = .boolean b := by
  cases v <;> simp [Value.truth?]

private theorem size?_eq_some_iff (v : Value) (n : Nat) : v.size? = some n ↔ v = .integer n := by
  cases v with
  | integer m =>
    cases m with
    | ofNat k =>
      simp only [Value.size?, Option.some.injEq, Value.integer.injEq]
      exact Int.ofNat_inj.symm
    | negSucc k => simp [Value.size?]
  | _ => simp [Value.size?]

private theorem Value.outline_eq_scalar_iff {v u : Value} (hu : u.outline = .scalar u) :
    v.outline = .scalar u ↔ v = u := by
  refine ⟨fun h => ?_, fun h => h ▸ hu⟩
  cases v <;> simp_all [outline]

private theorem exists_stands_iff {α : Type} {v : Option Value} {make : α → Value} {default : α} :
    (∃ a, Stands v make default a) ↔ v = none ∨ ∃ a, v = some (make a) := by
  cases v <;> simp [Stands]

private theorem stands_congr {α : Type} {v v' : Option Value} {make : α → Value} {default a : α}
    (h : v.map Value.outline = v'.map Value.outline) (hmake : ∀ a, (make a).outline = .scalar (make a)) :
    Stands v make default a ↔ Stands v' make default a := by
  have htold : ∀ u : Option Value,
      Stands u make default a ↔ u.map Value.outline = none ∧ a = default ∨
        u.map Value.outline = some (.scalar (make a)) := by
    intro u
    cases u <;> simp [Stands, Value.outline_eq_scalar_iff (hmake a)]
  rw [htold, htold, h]

end Toml

open Toml

private theorem FormatSettings.ofFields_eq_some_iff {field : Text → Nat → Option Value}
    {f : FormatSettings} :
    ofFields field = some f ↔ Stands (field "enabled".toList 0) .boolean true f.enabled ∧
      Stands (field "indent_width".toList 1) (fun n : Nat => .integer n) 4 f.indentWidth := by
  rw [← fieldOr_eq_some_iff truth?_eq_some_iff, ← fieldOr_eq_some_iff size?_eq_some_iff]
  constructor
  · intro h
    obtain ⟨enabled, henabled, h⟩ := Option.bind_eq_some_iff.1 h
    obtain ⟨width, hwidth, h⟩ := Option.bind_eq_some_iff.1 h
    cases h
    exact ⟨henabled, hwidth⟩
  · rintro ⟨henabled, hwidth⟩
    exact Option.bind_eq_some_iff.2 ⟨_, henabled, Option.bind_eq_some_iff.2 ⟨_, hwidth, rfl⟩⟩

private theorem FoldingSettings.ofFields_eq_some_iff {field : Text → Nat → Option Value}
    {f : FoldingSettings} :
    ofFields field = some f ↔ Stands (field "enabled".toList 0) .boolean true f.enabled := by
  rw [← fieldOr_eq_some_iff truth?_eq_some_iff]
  constructor
  · intro h
    obtain ⟨enabled, henabled, h⟩ := Option.bind_eq_some_iff.1 h
    cases h
    exact henabled
  · intro henabled
    exact Option.bind_eq_some_iff.2 ⟨_, henabled, rfl⟩

namespace Settings

def keys : List (List Text) :=
  [["format".toList, "enabled".toList], ["format".toList, "indent_width".toList],
   ["folding".toList, "enabled".toList]]

/-- The settings are those that the three keys give, with the defaults for missing ones. -/
structure Given (es : Entries) (s : Settings) : Prop where
  format : Stands (es.at? ["format".toList, "enabled".toList]) .boolean true s.format.enabled
  width : Stands (es.at? ["format".toList, "indent_width".toList]) (fun n : Nat => .integer n) 4
    s.format.indentWidth
  folding : Stands (es.at? ["folding".toList, "enabled".toList]) .boolean true s.folding.enabled

private theorem ofEntries_eq_some_iff {es : Entries} (hformat : es.IsSection "format".toList)
    (hfolding : es.IsSection "folding".toList) {s : Settings} : ofEntries es = some s ↔ Given es s := by
  have hformat' : fieldOr FormatSettings.ofValue {} (es.get? "format".toList) =
      FormatSettings.ofFields fun name _ => es.at? ["format".toList, name] := hformat.fieldOr_eq rfl
  have hfolding' : fieldOr FoldingSettings.ofValue {} (es.get? "folding".toList) =
      FoldingSettings.ofFields fun name _ => es.at? ["folding".toList, name] := hfolding.fieldOr_eq rfl
  unfold ofEntries
  rw [hformat', hfolding']
  constructor
  · intro h
    obtain ⟨format, hf, h⟩ := Option.bind_eq_some_iff.1 h
    obtain ⟨folding, hg, h⟩ := Option.bind_eq_some_iff.1 h
    cases h
    obtain ⟨henabled, hwidth⟩ := FormatSettings.ofFields_eq_some_iff.1 hf
    exact ⟨henabled, hwidth, FoldingSettings.ofFields_eq_some_iff.1 hg⟩
  · rintro ⟨henabled, hwidth, hfolds⟩
    have hf : FormatSettings.ofFields (fun name _ => es.at? ["format".toList, name]) = some s.format :=
      FormatSettings.ofFields_eq_some_iff.2 ⟨henabled, hwidth⟩
    have hg : FoldingSettings.ofFields (fun name _ => es.at? ["folding".toList, name]) =
      some s.folding := FoldingSettings.ofFields_eq_some_iff.2 hfolds
    exact Option.bind_eq_some_iff.2 ⟨_, hf, Option.bind_eq_some_iff.2 ⟨_, hg, rfl⟩⟩

private theorem ofToml_eq_ok_iff {t : Text} {es : Entries} (hvalid : parse t = some es)
    (hformat : es.IsSection "format".toList) (hfolding : es.IsSection "folding".toList) {s : Settings} :
    ofToml t = .ok s ↔ Given es s := by
  rw [← ofEntries_eq_some_iff hformat hfolding, ofToml, hvalid, Option.bind_some]
  cases ofEntries es <;> simp

private theorem ofToml_congr {t t' : Text} (h : ∀ s, ofToml t = .ok s ↔ ofToml t' = .ok s) :
    ofToml t = ofToml t' := by
  by_cases hok : ∃ s, ofToml t = .ok s
  · obtain ⟨s, hs⟩ := hok
    rw [hs, (h s).1 hs]
  · have hne : ∀ s, ofToml t ≠ .ok s := fun s hs => hok ⟨s, hs⟩
    rw [ofToml_of_ne_ok hne, ofToml_of_ne_ok fun s hs => hne s ((h s).2 hs)]

private theorem given_congr {es es' : Entries} (h : ∀ p ∈ keys, es.outline? p = es'.outline? p)
    {s : Settings} : Given es s ↔ Given es' s := by
  have hformat := @stands_congr _ _ _ Value.boolean true s.format.enabled
    (h ["format".toList, "enabled".toList] (by simp [keys])) fun _ => rfl
  have hwidth := @stands_congr _ _ _ (fun n : Nat => .integer n) 4 s.format.indentWidth
    (h ["format".toList, "indent_width".toList] (by simp [keys])) fun _ => rfl
  have hfolding := @stands_congr _ _ _ Value.boolean true s.folding.enabled
    (h ["folding".toList, "enabled".toList] (by simp [keys])) fun _ => rfl
  constructor
  · rintro ⟨h₁, h₂, h₃⟩
    exact ⟨hformat.1 h₁, hwidth.1 h₂, hfolding.1 h₃⟩
  · rintro ⟨h₁, h₂, h₃⟩
    exact ⟨hformat.2 h₁, hwidth.2 h₂, hfolding.2 h₃⟩

private theorem clear_of_mem_keys {es : Entries} (hformat : es.IsSection "format".toList)
    (hfolding : es.IsSection "folding".toList) {p : List Text} (hp : p ∈ keys) :
    p ≠ [] ∧ es.Clear p := by
  simp only [keys, List.mem_cons, List.not_mem_nil, or_false] at hp
  rcases hp with rfl | rfl | rfl
  · exact ⟨by simp, hformat.clear _⟩
  · exact ⟨by simp, hformat.clear _⟩
  · exact ⟨by simp, hfolding.clear _⟩

theorem outline?_iff_tells {t : Text} {ss : List Statement} {es : Entries} (hread : statements? t = some ss)
    (hvalid : parse t = some es) (hformat : es.IsSection "format".toList)
    (hfolding : es.IsSection "folding".toList) (p : List Text) (hp : p ∈ keys) (x : Outline) :
    es.outline? p = some x ↔ Tells [] ss p x := by
  obtain ⟨ss', hread', hcollect⟩ := parse_eq_some_iff.1 hvalid
  obtain rfl : ss = ss' := Option.some.inj (hread.symm.trans hread')
  obtain ⟨hne, hclear⟩ := clear_of_mem_keys hformat hfolding hp
  have hvalues := distinct_of_statements? hread
  exact Entries.outline?_iff_tells hcollect (fun f hf v => distinct_of_mem_facts hvalues hf) hne hclear

private theorem exists_given_iff {es : Entries} :
    (∃ s, Given es s) ↔
      (∃ b, Stands (es.at? ["format".toList, "enabled".toList]) .boolean true b) ∧
      (∃ n, Stands (es.at? ["format".toList, "indent_width".toList]) (fun n : Nat => .integer n) 4 n) ∧
      ∃ b, Stands (es.at? ["folding".toList, "enabled".toList]) .boolean true b := by
  constructor
  · rintro ⟨s, hformat, hwidth, hfolding⟩
    exact ⟨⟨_, hformat⟩, ⟨_, hwidth⟩, ⟨_, hfolding⟩⟩
  · rintro ⟨⟨enabled, hformat⟩, ⟨width, hwidth⟩, ⟨folding, hfolding⟩⟩
    exact ⟨⟨⟨enabled, width⟩, ⟨folding⟩⟩, hformat, hwidth, hfolding⟩

/-- A valid document whose sections are tables decodes if and only if the three keys are missing or have
values of their types, which are then the settings, with the defaults for missing ones. The keys have what
the statements of the document tell of them. So a document with the same statements in another order, or
with any statements that tell the same of the three keys, decodes to the same. -/
theorem decoded_by_lookups (t : Text) (es : Entries) (hvalid : parse t = some es)
    (hformat : es.IsSection "format".toList) (hfolding : es.IsSection "folding".toList) :
    let enabled := es.at? ["format".toList, "enabled".toList]
    let width := es.at? ["format".toList, "indent_width".toList]
    let folds := es.at? ["folding".toList, "enabled".toList]
    ((∃ s, ofToml t = .ok s) ↔
      (enabled = none ∨ ∃ b, enabled = some (.boolean b)) ∧
      (width = none ∨ ∃ n : Nat, width = some (.integer n)) ∧
      (folds = none ∨ ∃ b, folds = some (.boolean b))) ∧
    (∀ s, ofToml t = .ok s →
      (enabled = none ∧ s.format.enabled = true ∨ enabled = some (.boolean s.format.enabled)) ∧
      (width = none ∧ s.format.indentWidth = 4 ∨ width = some (.integer s.format.indentWidth)) ∧
      (folds = none ∧ s.folding.enabled = true ∨ folds = some (.boolean s.folding.enabled))) ∧
    ∃ ss, statements? t = some ss ∧
      (∀ p ∈ keys, ∀ x, es.outline? p = some x ↔ Tells [] ss p x) ∧
      ∀ t' ss' es', statements? t' = some ss' → parse t' = some es' →
        es'.IsSection "format".toList → es'.IsSection "folding".toList →
        (Reordered ss ss' → ofToml t' = ofToml t) ∧
        ((∀ p ∈ keys, ∀ x, Tells [] ss' p x ↔ Tells [] ss p x) → ofToml t' = ofToml t) := by
  intro enabled width folds
  have hdecoded : ∀ s, ofToml t = .ok s ↔ Given es s := fun s => ofToml_eq_ok_iff hvalid hformat hfolding
  obtain ⟨ss, hread, -⟩ := parse_eq_some_iff.1 hvalid
  have htold := outline?_iff_tells hread hvalid hformat hfolding
  refine ⟨?_, fun s hs => ?_, ss, hread, htold, ?_⟩
  · rw [exists_congr hdecoded, exists_given_iff, exists_stands_iff, exists_stands_iff, exists_stands_iff]
  · obtain ⟨hformat, hwidth, hfolding⟩ := (hdecoded s).1 hs
    exact ⟨hformat, hwidth, hfolding⟩
  · intro t' ss' es' hread' hvalid' hformat' hfolding'
    have hsame : (∀ p ∈ keys, ∀ x, Tells [] ss' p x ↔ Tells [] ss p x) → ofToml t' = ofToml t := by
      intro htells
      refine ofToml_congr fun s => ?_
      rw [hdecoded, ofToml_eq_ok_iff hvalid' hformat' hfolding']
      refine given_congr fun p hp => Option.ext fun x => ?_
      rw [outline?_iff_tells hread' hvalid' hformat' hfolding' p hp, htells p hp, htold p hp]
    exact ⟨fun hreordered => hsame fun p _ x => hreordered.tells_iff.symm, hsame⟩

theorem decoded_by_lookups_reordered :
    let t : Text := "[format]\nindent_width = 8\nold = [true]\n[folding]\nenabled = false\n".toList
    let t' : Text := "[folding]\nenabled = false\n[format]\nold = [true]\nindent_width = 8\n".toList
    ofToml t = .ok ⟨⟨true, 8⟩, ⟨false⟩⟩ ∧ ofToml t' = .ok ⟨⟨true, 8⟩, ⟨false⟩⟩ := by
  intro t t'
  have hbare : BareKey "format".toList ∧ BareKey "folding".toList ∧ BareKey "enabled".toList ∧
      BareKey "indent_width".toList ∧ BareKey "old".toList := by
    refine ⟨?_, ?_, ?_, ?_, ?_⟩ <;> exact bareKey_of_all (by decide) rfl
  obtain ⟨hformat, hfolding, henabled, hwidth, hold⟩ := hbare
  have hfalse : Reads "false".toList (.boolean false) := fun _ => rfl
  have hnumber : Reads ['8'] (.integer 8) := fun _ => rfl
  have hitems : Reads "[true]".toList (.array [.boolean true]) := fun _ => rfl
  have hplain : Plain t _ :=
    .header hformat <| .entry hwidth hnumber <| .entry hold hitems <| .header hfolding <|
      .entry henabled hfalse .nil
  have hplain' : Plain t' _ :=
    .header hfolding <| .entry henabled hfalse <| .header hformat <| .entry hold hitems <|
      .entry hwidth hnumber .nil
  obtain ⟨hdecodes, hfields, ss, hread, -, hsame⟩ := decoded_by_lookups t _
    ((parse_of_plain hplain).trans rfl) (.inr ⟨_, _, rfl⟩) (.inr ⟨_, _, rfl⟩)
  obtain rfl := Option.some.inj ((statements?_of_plain hplain).symm.trans hread)
  have hsettings : ofToml t = .ok ⟨⟨true, 8⟩, ⟨false⟩⟩ := by
    obtain ⟨⟨⟨enabled, width⟩, ⟨folds⟩⟩, hs⟩ := hdecodes.2 ⟨.inl rfl, .inr ⟨8, rfl⟩, .inr ⟨false, rfl⟩⟩
    obtain ⟨⟨-, henabled⟩ | henabled, ⟨hwidth, -⟩ | hwidth, ⟨hfolds, -⟩ | hfolds⟩ := hfields _ hs
    all_goals cases henabled
    all_goals cases hwidth
    all_goals cases hfolds
    exact hs
  refine ⟨hsettings, ?_⟩
  rw [← hsettings]
  refine (hsame t' _ _ (statements?_of_plain hplain') ((parse_of_plain hplain').trans rfl)
    (.inr ⟨_, _, rfl⟩) (.inr ⟨_, _, rfl⟩)).1 ?_
  refine .trans (.keys [_] [_, _]) (.sections [] [_, _, _] [_, _] [] ?_ ?_ ?_) <;>
    simp [Sections, Statement.isHeader]

end Settings
end Regimen
