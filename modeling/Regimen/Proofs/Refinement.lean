import Regimen.Proofs.Acceptance
import Regimen.Proofs.Offers

/-! A session does what a server does that is called directly, once for each accepted message. All other
messages leave no trace in it but their refusals, and the ignored ones not even that. -/
namespace Regimen

structure Delivery where
  disk : Disk
  message : Message

/-- No message of the run ends the session. -/
def Orderly (run : List Delivery) : Prop := ∀ d ∈ run, d.message.method ≠ "exit"

def through (p : α → Bool) : List α → List α
  | [] => []
  | a :: l => if p a then [a] else a :: through p l

/-- The messages that reach the server: the first setup that makes a call and, through the first shutdown
after it, every other message that makes one. -/
def accepted (run : List Delivery) : List Delivery :=
  match run.dropWhile (!·.message.starts) with
  | [] => []
  | first :: later =>
    first :: (through (·.message.kind.isShutdown) later).filter (·.message.continues)

def Accepts (run : List Delivery) (d : Delivery) : Prop := accepted (run ++ [d]) = accepted run ++ [d]

def Delivery.arrival? (d : Delivery) : Option Arrival := d.message.call?.map (⟨d.disk, ·⟩)

/-- The server that is called directly, once for each accepted message. -/
def Server.driven (run : List Delivery) : Server :=
  ({} : Server).after ((accepted run).filterMap Delivery.arrival?)

def Phase.after (run : List Delivery) : Phase :=
  match run.dropWhile (!·.message.starts) with
  | [] => .fresh
  | _ :: later => if later.any (·.message.kind.isShutdown) then .closing else .running

private theorem Delivery.call?_of_arrival? {d : Delivery} {a : Arrival} (h : d.arrival? = some a) :
    d.message.call? = some a.call := by
  obtain ⟨call, hcall, rfl⟩ := Option.map_eq_some_iff.1 h
  exact hcall

private theorem Orderly.of_append {run later : List Delivery} (h : Orderly (run ++ later)) :
    Orderly run :=
  fun d hd => h d (List.mem_append_left later hd)

private theorem through_concat (p : α → Bool) (l : List α) (a : α) :
    through p (l ++ [a]) = through p l ++ if l.any p then [] else [a] := by
  induction l with
  | nil => simp [through]
  | cons b l ih => by_cases hb : p b = true <;> simp [through, hb, ih]

private theorem Phase.after_concat (run : List Delivery) (d : Delivery) :
    Phase.after (run ++ [d]) = (Phase.after run).next d.message := by
  unfold Phase.after
  rw [List.dropWhile_append]
  cases run.dropWhile (!·.message.starts) with
  | nil => by_cases h : d.message.starts <;> simp [h, Phase.next]
  | cons first later => by_cases h : later.any (·.message.kind.isShutdown) <;> simp [h, Phase.next]

private theorem Phase.after_ne_ended (run : List Delivery) : Phase.after run ≠ .ended := by
  unfold Phase.after
  split
  · simp
  · split <;> simp

private theorem accepted_concat (run : List Delivery) (d : Delivery) :
    accepted (run ++ [d]) =
      accepted run ++ if (Phase.after run).admits d.message then [d] else [] := by
  unfold accepted Phase.after
  rw [List.dropWhile_append]
  cases run.dropWhile (!·.message.starts) with
  | nil => by_cases h : d.message.starts <;> simp [h, Phase.admits, through]
  | cons first later =>
    by_cases h : later.any (·.message.kind.isShutdown) <;>
      simp [h, Phase.admits, through_concat, List.filter_cons]

private theorem accepts_iff {run : List Delivery} {d : Delivery} :
    Accepts run d ↔ (Phase.after run).admits d.message = true := by
  unfold Accepts
  rw [accepted_concat]
  cases (Phase.after run).admits d.message <;> simp

private theorem dropWhile_of_accepted {run : List Delivery} (h : accepted run = []) :
    run.dropWhile (!·.message.starts) = [] := by
  unfold accepted at h
  split at h
  · assumption
  · simp at h

private theorem starts_of_first {earlier : List Delivery} {first : Delivery}
    (hnone : accepted earlier = [])
    (hfirst : Accepts earlier first) : first.message.starts = true := by
  have hadmits := accepts_iff.1 hfirst
  rw [Phase.after, dropWhile_of_accepted hnone] at hadmits
  exact hadmits

private theorem accepted_of_first {earlier later : List Delivery} {first : Delivery}
    (hnone : accepted earlier = []) (hfirst : Accepts earlier first) :
    accepted (earlier ++ first :: later) =
      first :: (through (·.message.kind.isShutdown) later).filter (·.message.continues) := by
  rw [accepted, List.dropWhile_append]
  simp [dropWhile_of_accepted hnone, starts_of_first hnone hfirst]

namespace Server

private theorem driven_of_accepts {run : List Delivery} {d : Delivery} {call : Call} (h : Accepts run d)
    (hcall : d.message.call? = some call) :
    driven (run ++ [d]) = ((driven run).handle d.disk call).1 := by
  unfold driven
  rw [h]
  simp [Delivery.arrival?, hcall]

private theorem driven_of_not_accepts {run : List Delivery} {d : Delivery} (h : ¬ Accepts run d) :
    driven (run ++ [d]) = driven run := by
  rw [accepts_iff] at h
  simp [driven, accepted_concat, h]

private theorem settings_driven {earlier later : List Delivery} {first : Delivery} {call : Call}
    (hnone : accepted earlier = []) (hfirst : Accepts earlier first)
    (hcall : first.message.call? = some call) :
    (driven (earlier ++ first :: later)).settings = (({} : Server).handle first.disk call).1.settings := by
  unfold driven
  rw [accepted_of_first hnone hfirst]
  have harrival : first.arrival? = some ⟨first.disk, call⟩ := by
    simp [Delivery.arrival?, hcall]
  rw [List.filterMap_cons_some harrival, after_cons]
  apply settings_after_of_unset
  intro a ha
  obtain ⟨d, hd, hda⟩ := List.mem_filterMap.1 ha
  apply Call.settings?_of_method
  rw [← Message.kind_of_call? (Delivery.call?_of_arrival? hda)]
  simpa using (Bool.and_eq_true_iff.1 (List.mem_filter.1 hd).2).2

private theorem exists_offer (disk : Disk) {call : Call} (h : call.method = .setup) :
    ∃ offer, (({} : Server).handle disk call).2 = .capabilities offer ∧ ∀ service : Service,
      service.offered offer = service.enabled (({} : Server).handle disk call).1.settings := by
  cases call with
  | setup folders root =>
    refine ⟨_, rfl, fun service => ?_⟩
    cases hfolder : workspacePath? folders root <;> cases service <;> simp [handle, hfolder] <;> rfl
  | _ => cases h

private theorem toJson_request_eq_null (disk : Disk) (s : Server) (service : Service) (u : Uri) :
    (s.handle disk (service.request u)).2.toJson = .null ↔
      service.enabled s.settings = false ∨ s.text? u = none := by
  cases service with
  | formatting =>
    cases henabled : s.settings.format.enabled <;> cases hstored : s.text? u <;>
      simp [handle, Service.request, Service.enabled, edits?, henabled, hstored, Answer.toJson,
        Json.ofOption]
  | folding =>
    cases henabled : s.settings.folding.enabled <;> cases hstored : s.text? u <;>
      simp [handle, Service.request, Service.enabled, folds?, henabled, hstored, Answer.toJson,
        Json.ofOption]

end Server

namespace Session

def after (s : Session) (run : List Delivery) : Session :=
  run.foldl (fun s d => (s.handle d.disk d.message).1) s

def responses (s : Session) : List Delivery → List Response
  | [] => []
  | d :: rest =>
    (s.handle d.disk d.message).2.response.toList ++ (s.handle d.disk d.message).1.responses rest

private theorem after_concat (s : Session) (run : List Delivery) (d : Delivery) :
    s.after (run ++ [d]) = ((s.after run).handle d.disk d.message).1 := by
  simp [after]

private theorem responses_concat (s : Session) (run : List Delivery) (d : Delivery) :
    s.responses (run ++ [d]) =
      s.responses run ++ ((s.after run).handle d.disk d.message).2.response.toList := by
  induction run generalizing s with
  | nil => simp [responses, after]
  | cons e run ih =>
    rw [List.cons_append, responses, responses, ih, List.append_assoc]
    rfl

section Step

variable {run : List Delivery} {d : Delivery}

private theorem handle_of_accepts (h : Accepts run d) :
    ∃ call, d.message.call? = some call ∧
      handle d.disk ⟨Phase.after run, Server.driven run⟩ d.message =
        (⟨Phase.after (run ++ [d]), ((Server.driven run).handle d.disk call).1⟩,
          ⟨d.message.id.map (⟨·, .ok ((Server.driven run).handle d.disk call).2.toJson⟩),
            call.notices⟩) := by
  rw [Phase.after_concat]
  exact @handle_admitted ⟨Phase.after run, Server.driven run⟩ _ (accepts_iff.1 h) d.disk

private theorem handle_of_not_accepts (hexit : d.message.method ≠ "exit") (h : ¬ Accepts run d) :
    ∃ fault, handle d.disk ⟨Phase.after run, Server.driven run⟩ d.message =
      (⟨Phase.after (run ++ [d]), Server.driven run⟩,
        if d.message.isIgnored then {} else d.message.refuse fault) := by
  have hadmits : (Phase.after run).admits d.message = false := by simpa [accepts_iff] using h
  rw [Phase.after_concat]
  exact @handle_refused ⟨Phase.after run, Server.driven run⟩ _ hexit (Phase.after_ne_ended run) hadmits d.disk

/-- A session stands where its run leads to, and its server has made the accepted calls. -/
theorem after_eq (h : Orderly run) : ({} : Session).after run = ⟨Phase.after run, Server.driven run⟩ := by
  induction run using List.reverseRecOn with
  | nil => rfl
  | append_singleton run d ih =>
    have hexit := h d (by simp)
    rw [after_concat, ih h.of_append]
    by_cases haccepts : Accepts run d
    · obtain ⟨call, hcall, hhandle⟩ := handle_of_accepts haccepts
      rw [hhandle, Server.driven_of_accepts haccepts hcall]
    · obtain ⟨fault, hhandle⟩ := handle_of_not_accepts hexit haccepts
      rw [hhandle, Server.driven_of_not_accepts haccepts]

def answerable (run : List Delivery) : List Id :=
  (run.filter (!·.message.isIgnored)).filterMap (·.message.id)

private theorem answerable_concat (run : List Delivery) (d : Delivery) : answerable (run ++ [d]) =
    answerable run ++ if d.message.isIgnored then [] else d.message.id.toList := by
  unfold answerable
  cases hignored : d.message.isIgnored <;> cases hid : d.message.id <;> simp [hignored, hid]

theorem ids_responses (h : Orderly run) :
    (({} : Session).responses run).map Response.id = answerable run := by
  induction run using List.reverseRecOn with
  | nil => rfl
  | append_singleton run d ih =>
    have hexit := h d (by simp)
    rw [responses_concat, List.map_append, ih h.of_append, answerable_concat, after_eq h.of_append]
    apply congrArg
    by_cases haccepts : Accepts run d
    · obtain ⟨call, hcall, hhandle⟩ := handle_of_accepts haccepts
      rw [hhandle, Message.isIgnored_of_call? hcall]
      cases hid : d.message.id <;> simp
    · obtain ⟨fault, hhandle⟩ := handle_of_not_accepts hexit haccepts
      rw [hhandle]
      cases d.message.isIgnored <;> cases hid : d.message.id <;> simp [Message.refuse, hid]

end Step

private theorem exists_first_offer {earlier later : List Delivery} {first : Delivery}
    (horderly : Orderly (earlier ++ first :: later)) (hnone : accepted earlier = [])
    (hfirst : Accepts earlier first) :
    ∃ call offer, first.message.call? = some call ∧
      (Server.driven (earlier ++ first :: later)).settings = (call.settings? first.disk).getD {} ∧
      ((({} : Session).after earlier).handle first.disk first.message).2.response =
        first.message.id.map (⟨·, .ok offer.toJson⟩) ∧
      ∀ service : Service, service.offered offer =
        service.enabled (Server.driven (earlier ++ first :: later)).settings := by
  obtain ⟨call, hcall, hhandle⟩ := handle_of_accepts hfirst
  have hmethod : call.method = .setup := by
    rw [← Message.kind_of_call? hcall]
    exact Method.eq_setup (Bool.and_eq_true_iff.1 (starts_of_first hnone hfirst)).2
  have hstart : Server.driven earlier = {} := by simp [Server.driven, hnone]
  have hsettings := @Server.settings_driven _ later _ _ hnone hfirst hcall
  obtain ⟨offer, hoffer, hserved⟩ := Server.exists_offer first.disk hmethod
  refine ⟨call, offer, hcall, ?_, ?_, ?_⟩
  · rw [hsettings, Server.settings_handle]
  · rw [after_eq horderly.of_append, hhandle, hstart, hoffer]
    rfl
  · intro service
    rw [hsettings, hserved]

private theorem isSome_id_of_request {m : Message} {service : Service} {u : Uri}
    (h : m.call? = some (service.request u)) : m.id.isSome = true := by
  rw [(Message.call?_eq_some.1 h).1, Message.kind_of_call? h]
  cases service <;> rfl

/-- A session refines the server: it answers each accepted message as the server does that was called for
the accepted ones so far, and refuses every other or ignores it. Hence the first accepted setup decides
what is served from then on. -/
theorem session_refines_server (before : List Delivery) (d : Delivery) (horderly : Orderly (before ++ [d])) :
    let server := Server.driven before
    let next := (({} : Session).after before).handle d.disk d.message
    (({} : Session).after before).server = server ∧
    (Accepts before d → ∃ call, d.message.call? = some call ∧
      next.1.server = (server.handle d.disk call).1 ∧
      next.2.response = d.message.id.map (⟨·, .ok (server.handle d.disk call).2.toJson⟩)) ∧
    (¬ Accepts before d → next.1.server = server ∧
      if d.message.isIgnored then next.2.response = none
      else ∃ fault, next.2.response = d.message.id.map (⟨·, .error fault⟩)) ∧
    (({} : Session).responses (before ++ [d])).map Response.id = answerable (before ++ [d]) ∧
    ∀ earlier first later, before = earlier ++ first :: later → accepted earlier = [] →
      Accepts earlier first → ∃ call offer, first.message.call? = some call ∧
        server.settings = (call.settings? first.disk).getD {} ∧
        ((({} : Session).after earlier).handle first.disk first.message).2.response =
          first.message.id.map (⟨·, .ok offer.toJson⟩) ∧
        ∀ (service : Service) (u : Uri), Accepts before d →
          d.message.call? = some (service.request u) →
          (next.2.response = d.message.id.map (⟨·, .ok .null⟩) ↔
            service.offered offer = false ∨ server.text? u = none) := by
  intro server next
  have hexit := horderly d (by simp)
  have hafter := after_eq horderly.of_append
  refine ⟨by rw [hafter], fun haccepts => ?_, fun hrefused => ?_, ids_responses horderly, ?_⟩
  · obtain ⟨call, hcall, hhandle⟩ := handle_of_accepts haccepts
    refine ⟨call, hcall, ?_, ?_⟩ <;> simp only [next, hafter, hhandle, server]
  · obtain ⟨fault, hhandle⟩ := handle_of_not_accepts hexit hrefused
    simp only [next, hafter, hhandle, server, true_and]
    split
    · rfl
    · exact ⟨fault, rfl⟩
  · rintro earlier first later rfl hnone hfirst
    obtain ⟨call, offer, hcall, hsettings, hoffer, hserved⟩ :=
      exists_first_offer horderly.of_append hnone hfirst
    refine ⟨call, offer, hcall, hsettings, hoffer, fun service u haccepts hrequest => ?_⟩
    obtain ⟨request, hcall', hhandle⟩ := handle_of_accepts haccepts
    obtain rfl : request = service.request u := Option.some.inj (hcall'.symm.trans hrequest)
    obtain ⟨id, hid⟩ := Option.isSome_iff_exists.1 (isSome_id_of_request hrequest)
    rw [hserved, ← Server.toJson_request_eq_null d.disk]
    simp [next, hafter, hhandle, hid]

theorem session_refines_server_with_document :
    let disk : Disk := fun _ => .missing
    let hover : Delivery := ⟨disk, some (.number 1), "textDocument/hover", none⟩
    let setup (n : Int) : Delivery :=
      ⟨disk, some (.number n), "initialize", some (.obj [("capabilities", .obj [])])⟩
    let opened : Delivery := ⟨disk, none, "textDocument/didOpen", some (.obj [("textDocument", .obj
      [("uri", .str "file:///a"), ("languageId", .str "l"), ("version", .num "1"), ("text", .str "# a\nb")])])⟩
    let folding : Delivery := ⟨disk, some (.number 4), "textDocument/foldingRange",
      some (.obj [("textDocument", .obj [("uri", .str "file:///a")])])⟩
    let before := [hover, setup 2, setup 3, opened]
    ¬ Accepts [hover, setup 2] (setup 3) ∧ Accepts before folding ∧
      ((({} : Session).after before).handle disk folding.message).2.response =
        some ⟨.number 4, .ok (.arr [.obj [("startLine", .num "0"), ("endLine", .num "1"),
          ("kind", .str "region")]])⟩ ∧
      (({} : Session).responses (before ++ [folding])).map Response.id =
        [.number 1, .number 2, .number 3, .number 4] := by
  intro disk hover setup opened folding before
  let page : Uri := ⟨Uri.fileScheme, some [], .path [['a']], []⟩
  have hcall : folding.message.call? = some (.folding page) := rfl
  have horderly : Orderly (before ++ [folding]) := by
    simp [Orderly, before, hover, setup, opened, folding]
  have hsecond : ¬ Accepts [hover, setup 2] (setup 3) := by
    rw [accepts_iff]
    decide
  have haccepts : Accepts before folding := accepts_iff.2 rfl
  have hstored : (Server.driven before).text? page = some "# a\nb".toList := by
    change (({} : Server).store page "# a\nb".toList).text? page = _
    simp
  have henabled : (Server.driven before).settings.folding.enabled = true := rfl
  obtain ⟨-, hanswer, -, hids, -⟩ := session_refines_server before folding horderly
  obtain ⟨call, hcall', -, hresponse⟩ := hanswer haccepts
  obtain rfl : call = .folding page := Option.some.inj (hcall'.symm.trans hcall)
  refine ⟨hsecond, haccepts, ?_, hids⟩
  rw [hresponse]
  simp only [Server.handle, Server.folds?, henabled, hstored]
  rfl

/-- A shutdown with parameters is refused although its method needs none, and a request of an unknown
method with `$/` in front is not answered. -/
theorem shutdown_refused_and_request_unanswered :
    let disk : Disk := fun _ => .missing
    let setup : Delivery :=
      ⟨disk, some (.number 1), "initialize", some (.obj [("capabilities", .obj [])])⟩
    let s := ({} : Session).after [setup]
    s.phase = .running ∧
      (s.handle disk ⟨some (.number 2), "shutdown", some (.obj [])⟩).2.response =
        some ⟨.number 2, .error (.params (.unexpected (.obj [])))⟩ ∧
      (s.handle disk ⟨some (.number 2), "$/x", none⟩).2.response = none :=
  ⟨rfl, rfl, rfl⟩

end Session
end Regimen
