import Regimen.Proofs.Runs

/-! The documents of a server after a run of calls: each holds the text that the latest call carried
for it, unless it was closed since. Documents are independent of each other. -/
namespace Regimen

/-- The latest call of the run that carried a text for the document carried `t`, and no call closed the
document since. -/
def LatestText (run : List Arrival) (u : Uri) (t : Text) : Prop :=
  ∃ before a later, run = before ++ a :: later ∧ a.call.text? u = some t ∧
    ∀ b ∈ later, b.call.Spares u

private theorem not_latestText_nil (u : Uri) (t : Text) : ¬ LatestText [] u t := by
  rintro ⟨before, a, later, h, -⟩
  simp at h

private theorem latestText_concat {run : List Arrival} {a : Arrival} {u : Uri} {t : Text} :
    LatestText (run ++ [a]) u t ↔
      a.call.text? u = some t ∨ a.call.Spares u ∧ LatestText run u t := by
  constructor
  · rintro ⟨before, b, later, hrun, hb, hlater⟩
    rcases List.eq_nil_or_concat later with rfl | ⟨later, c, rfl⟩
    · obtain ⟨-, rfl⟩ : run = before ∧ a = b := by simpa using List.append_inj' hrun rfl
      exact .inl hb
    · have hsplit : run ++ [a] = (before ++ b :: later) ++ [c] := by simpa using hrun
      obtain ⟨rfl, rfl⟩ : run = before ++ b :: later ∧ a = c := by
        simpa using List.append_inj' hsplit rfl
      exact .inr ⟨hlater a (by simp), before, b, later, rfl, hb, fun d hd => hlater d (by simp [hd])⟩
  · rintro (ha | ⟨ha, before, b, later, rfl, hb, hlater⟩)
    · exact ⟨run, a, [], rfl, ha, by simp⟩
    · refine ⟨before, b, later ++ [a], by simp, hb, fun d hd => ?_⟩
      rcases List.mem_append.1 hd with hd | hd
      · exact hlater d hd
      · rwa [List.mem_singleton.1 hd]

namespace Server

private theorem text?_after_iff {run : List Arrival} {u : Uri} {t : Text} :
    (({} : Server).after run).text? u = some t ↔ LatestText run u t := by
  induction run using List.reverseRecOn with
  | nil => simp [text?, not_latestText_nil]
  | append_singleton run a ih =>
    rw [after_append, after_cons, after_nil, text?_handle, latestText_concat, ← ih]
    cases ha : a.call.text? u with
    | none => by_cases hc : a.call.closes u = true <;> simp [Call.Spares, ha, hc]
    | some t' => simp [Call.Spares, ha, Call.closes_of_text? ha]

theorem alike_swap (s : Server) {a b : Arrival} {u v : Uri} (ha : a.call.document? = some u)
    (hb : b.call.document? = some v) (huv : u ≠ v) : Alike (s.after [a, b]) (s.after [b, a]) := by
  constructor
  · simp [settings_handle, Call.settings?_of_document? ha, Call.settings?_of_document? hb]
  · intro x
    simp only [after_cons, after_nil]
    by_cases hx : u = x
    · have hbx := Call.spares_of_document? hb (hx ▸ huv.symm)
      rw [text?_handle_of_spares _ _ hbx, text?_handle, text?_handle,
        text?_handle_of_spares _ _ hbx]
    · have hax := Call.spares_of_document? ha hx
      rw [text?_handle_of_spares _ _ hax, text?_handle b.disk, text?_handle b.disk,
        text?_handle_of_spares _ _ hax]

private theorem answer_of_document? (disk : Disk) (s : Server) {call : Call} {u : Uri}
    (h : call.document? = some u) : (s.handle disk call).2 = .nothing := by
  cases call with
  | opened | closed => rfl
  | changed | saved => simp [handle_changed, handle_saved]
  | setup | ready | shutdown | formatting | folding => simp [Call.document?] at h

private theorem answers_swap (s : Server) {a b : Arrival} {u v : Uri} (ha : a.call.document? = some u)
    (hb : b.call.document? = some v) (huv : u ≠ v) (run later : List Arrival) :
    s.answers (run ++ a :: b :: later) = s.answers (run ++ b :: a :: later) := by
  have hpair : ∀ c d : Arrival, run ++ c :: d :: later = run ++ ([c, d] ++ later) := by simp
  have hrest := (alike_swap (s.after run) ha hb huv).answers later
  rw [hpair, hpair, answers_append, answers_append, answers_append, answers_append, hrest]
  simp [answers, answer_of_document? _ _ ha, answer_of_document? _ _ hb]

/-- The server as a store of documents: it holds what was told last of each, the order in which it
hears of different documents does not matter, and requests only read. -/
theorem store_follows_run (run : List Arrival) :
    let s := ({} : Server).after run
    (∀ u t, s.text? u = some t ↔ LatestText run u t) ∧
    (∀ a b later u v, a.call.document? = some u → b.call.document? = some v → u ≠ v →
      ({} : Server).answers (run ++ a :: b :: later) = ({} : Server).answers (run ++ b :: a :: later)) ∧
    (∀ disk u, (s.handle disk (.formatting u)).1 = s ∧ (s.handle disk (.folding u)).1 = s) ∧
    (∀ (s' : Server) disk disk' u v, s.settings = s'.settings → s.text? u = s'.text? v →
      (s.handle disk (.formatting u)).2 = (s'.handle disk' (.formatting v)).2 ∧
        (s.handle disk (.folding u)).2 = (s'.handle disk' (.folding v)).2) := by
  intro s
  refine ⟨fun u t => text?_after_iff, ?_, fun disk u => ⟨rfl, rfl⟩, ?_⟩
  · intro a b later u v ha hb huv
    exact answers_swap {} ha hb huv run later
  · intro s' disk disk' u v hsettings htext
    exact ⟨congrArg Answer.edits (edits?_congr hsettings htext),
      congrArg Answer.folds (folds?_congr hsettings htext)⟩

theorem store_follows_quiet_calls :
    let page : Uri := ⟨Uri.fileScheme, some [], .path [['a']], []⟩
    let other : Uri := ⟨Uri.fileScheme, some [], .path [['b']], []⟩
    let disk : Disk := fun _ => .missing
    let run : List Arrival := [⟨disk, .opened page ['x']⟩, ⟨disk, .changed page []⟩]
    (({} : Server).after run).text? page = some ['x'] ∧
      ({} : Server).answers
          (run ++ [⟨disk, .saved page none⟩, ⟨disk, .closed other⟩, ⟨disk, .formatting page⟩]) =
        ({} : Server).answers
          (run ++ [⟨disk, .closed other⟩, ⟨disk, .saved page none⟩, ⟨disk, .formatting page⟩]) := by
  intro page other disk run
  obtain ⟨hstored, hswap, -⟩ := store_follows_run run
  refine ⟨(hstored page ['x']).2 ⟨[], ⟨disk, .opened page ['x']⟩, [⟨disk, .changed page []⟩], ?_⟩, ?_⟩
  · simp [run, Call.Spares, Call.text?, Call.closes]
  · exact hswap _ _ _ page other rfl rfl (by decide)

end Server
end Regimen
