import Regimen.Proofs.Runs
import Regimen.Session

/-! Which messages of a session reach the server. The first setup that makes a call does, and after it
every other message that makes one, through the first shutdown. What a session does with one message
depends on its phase alone: it either makes the message's call or refuses it, or ignores it if its name
asks for that. -/
namespace Regimen

namespace Method

def isSetup : Method → Bool
  | .setup => true
  | _ => false

def isShutdown : Method → Bool
  | .shutdown => true
  | _ => false

def isUnknown : Method → Bool
  | .unknown => true
  | _ => false

/-- What a running session passes on as it comes. -/
def isRouted : Method → Bool
  | .setup | .exit | .cancel | .unknown => false
  | _ => true

theorem eq_setup {method : Method} (h : method.isSetup = true) : method = .setup := by
  cases method <;> simp_all [isSetup]

private theorem isSetup_of_isRouted {method : Method} (h : method.isRouted = true) :
    method.isSetup = false := by
  cases method <;> simp_all [isRouted, isSetup]

end Method

namespace Call

def method : Call → Method
  | .setup _ _ => .setup
  | .ready => .ready
  | .shutdown => .shutdown
  | .opened _ _ => .opened
  | .changed _ _ => .changed
  | .saved _ _ => .saved
  | .closed _ => .closed
  | .formatting _ => .formatting
  | .folding _ => .folding

private theorem exists_decoded {shape : Shape} {decode : Json → Except Mismatch Call}
    {params : Option Json}
    {call : Call} (h : (shape.decodeParams decode params).mapError Fault.params = .ok call) :
    ∃ j, decode j = .ok call := by
  cases params with
  | none => simp [Shape.decodeParams, Except.mapError] at h
  | some p =>
    have hdecode : shape.decode decode p = .ok call := mapError_eq_ok.1 (mapError_eq_ok.1 h)
    obtain ⟨j, -, hj⟩ := bind_eq_ok.1 hdecode
    exact ⟨j, hj⟩

private theorem method_of_call {method : Method} {params : Option Json} {call : Call}
    (h : method.call params = .ok call) : call.method = method := by
  cases method with
  | setup =>
    obtain ⟨j, h⟩ := exists_decoded h
    obtain ⟨folders, -, h⟩ := bind_eq_ok.1 h
    cases h
    rfl
  | ready =>
    obtain ⟨j, h⟩ := exists_decoded h
    cases h
    rfl
  | shutdown =>
    cases params <;> cases h
    rfl
  | opened =>
    obtain ⟨j, h⟩ := exists_decoded h
    obtain ⟨document, -, h⟩ := bind_eq_ok.1 h
    obtain ⟨u, -, h⟩ := bind_eq_ok.1 h
    obtain ⟨t, -, h⟩ := bind_eq_ok.1 h
    cases h
    rfl
  | changed =>
    obtain ⟨j, h⟩ := exists_decoded h
    obtain ⟨items, -, h⟩ := bind_eq_ok.1 h
    obtain ⟨u, -, h⟩ := bind_eq_ok.1 h
    obtain ⟨changes, -, h⟩ := bind_eq_ok.1 h
    cases h
    rfl
  | saved | closed | formatting | folding =>
    obtain ⟨j, h⟩ := exists_decoded h
    obtain ⟨u, -, h⟩ := bind_eq_ok.1 h
    cases h
    rfl
  | unserved shape =>
    simp only [Method.call] at h
    split at h <;> cases h
  | exit | unheeded | cancel | unknown => cases h

theorem settings?_of_method {call : Call} (h : call.method.isSetup = false) (disk : Disk) :
    call.settings? disk = none := by
  cases call with
  | setup => simp [method, Method.isSetup] at h
  | _ => rfl

end Call

namespace Message

def kind (m : Message) : Method := .ofName m.method

def call (m : Message) : Except Fault Call := m.kind.call m.params

/-- The call that reaches the server. Requests have an identifier and notifications have none, and the
parameters are such as the method takes. -/
def call? (m : Message) : Option Call :=
  if m.id.isSome = m.kind.isRequest then m.call.toOption else none

def starts (m : Message) : Bool := m.call?.isSome && m.kind.isSetup

def continues (m : Message) : Bool := m.call?.isSome && !m.kind.isSetup

/-- Methods with `$/` in front that nobody knows are optional, and even a request of one is not answered. -/
def isIgnored (m : Message) : Bool := m.kind.isUnknown && "$/".toList.isPrefixOf m.method.toList

theorem call?_eq_some {m : Message} {call : Call} :
    m.call? = some call ↔ m.id.isSome = m.kind.isRequest ∧ m.call = .ok call := by
  unfold call?
  cases m.call <;> simp [Except.toOption]

theorem kind_of_call? {m : Message} {call : Call} (h : m.call? = some call) : m.kind = call.method :=
  (Call.method_of_call (call?_eq_some.1 h).2).symm

private theorem isRouted_of_call? {m : Message} {call : Call} (h : m.call? = some call)
    (hsetup : m.kind.isSetup = false) : m.kind.isRouted = true := by
  rw [kind_of_call? h] at hsetup ⊢
  cases call <;> simp_all [Call.method, Method.isSetup, Method.isRouted]

theorem isIgnored_of_call? {m : Message} {call : Call} (h : m.call? = some call) :
    m.isIgnored = false := by
  unfold isIgnored
  rw [kind_of_call? h]
  cases call <;> rfl

private theorem kind_ne_exit {m : Message} (h : m.method ≠ "exit") : m.kind ≠ .exit := by
  unfold kind Method.ofName
  split
  case h_4 hexit => exact absurd hexit h
  case h_12 =>
    split
    · simp
    · split <;> simp
  all_goals simp

end Message

namespace Phase

def admits : Phase → Message → Bool
  | .fresh, m => m.starts
  | .running, m => m.continues
  | _, _ => false

def next : Phase → Message → Phase
  | .fresh, m => if m.starts then .running else .fresh
  | .running, m => if m.kind.isShutdown then .closing else .running
  | phase, _ => phase

end Phase

namespace Session

variable {s : Session} {m : Message}

private theorem serve_of_call? {call : Call} (disk : Disk) (h : m.call? = some call) :
    s.serve disk m.kind m = ({ s with server := (s.server.handle disk call).1 },
      ⟨m.id.map (⟨·, .ok (s.server.handle disk call).2.toJson⟩), call.notices⟩) := by
  obtain ⟨hid, hcall⟩ := Message.call?_eq_some.1 h
  unfold Message.call at hcall
  simp [serve, hid, hcall]

private theorem serve_of_no_call (disk : Disk) (h : m.call? = none) :
    ∃ fault, s.serve disk m.kind m = (s, m.refuse fault) := by
  unfold Message.call? Message.call at h
  unfold serve
  split
  next hid =>
    cases hcall : m.kind.call m.params with
    | ok call => simp [hid, hcall, Except.toOption] at h
    | error fault => exact ⟨fault, rfl⟩
  next => exact ⟨.invalidRequest, rfl⟩

private theorem handle_running {server : Server} (disk : Disk) (hrouted : m.kind.isRouted = true) :
    handle disk ⟨.running, server⟩ m = serve disk ⟨Phase.running.next m, server⟩ m.kind m := by
  cases hkind : m.kind with
  | setup | exit | cancel | unknown => simp [hkind, Method.isRouted] at hrouted
  | ready | shutdown | opened | changed | saved | closed | formatting | folding | unserved | unheeded =>
    simp only [Phase.next, hkind, Method.isShutdown]
    unfold Message.kind at hkind
    simp [handle, hkind]

private theorem handle_fresh {server : Server} (disk : Disk) (hkind : m.kind = .setup) :
    handle disk ⟨.fresh, server⟩ m = start disk ⟨.fresh, server⟩ m := by
  unfold Message.kind at hkind
  simp [handle, hkind]

theorem handle_admitted (hadmits : s.phase.admits m = true) (disk : Disk) :
    ∃ call, m.call? = some call ∧ s.handle disk m =
      (⟨s.phase.next m, (s.server.handle disk call).1⟩,
        ⟨m.id.map (⟨·, .ok (s.server.handle disk call).2.toJson⟩), call.notices⟩) := by
  obtain ⟨phase, server⟩ := s
  cases phase with
  | closing | ended => simp [Phase.admits] at hadmits
  | fresh =>
    have hstarts : m.starts = true := hadmits
    obtain ⟨hcall, hsetup⟩ := Bool.and_eq_true_iff.1 hadmits
    obtain ⟨call, hcall⟩ := Option.isSome_iff_exists.1 hcall
    have hkind := Method.eq_setup hsetup
    have hid := (Message.call?_eq_some.1 hcall).1
    have hserve := @serve_of_call? ⟨.fresh, server⟩ m call disk hcall
    rw [hkind] at hid hserve
    obtain ⟨id, hid⟩ := Option.isSome_iff_exists.1 hid
    refine ⟨call, hcall, ?_⟩
    rw [handle_fresh disk hkind, start, hserve]
    simp [Outcome.isSuccess, hid, Phase.next, hstarts]
  | running =>
    obtain ⟨hcall, hsetup⟩ := Bool.and_eq_true_iff.1 hadmits
    obtain ⟨call, hcall⟩ := Option.isSome_iff_exists.1 hcall
    refine ⟨call, hcall, ?_⟩
    rw [handle_running disk (Message.isRouted_of_call? hcall (by simpa using hsetup)),
      serve_of_call? disk hcall]

private theorem start_of_no_call {server : Server} (disk : Disk) (hkind : m.kind = .setup)
    (h : m.call? = none) :
    ∃ fault, start disk ⟨.fresh, server⟩ m = (⟨.fresh, server⟩, m.refuse fault) := by
  obtain ⟨fault, hserve⟩ := @serve_of_no_call ⟨.fresh, server⟩ m disk h
  rw [hkind] at hserve
  refine ⟨fault, ?_⟩
  rw [start, hserve]
  cases hid : m.id <;> simp [Outcome.isSuccess, Message.refuse, hid]

private theorem handle_unknown (hended : s.phase ≠ .ended) (hkind : m.kind = .unknown) (disk : Disk) :
    s.handle disk m = (s, if m.isIgnored then {} else m.refuse (.unknownMethod m.method)) := by
  unfold Message.isIgnored
  rw [hkind, Method.isUnknown, Bool.true_and]
  unfold Message.kind at hkind
  unfold handle
  rw [hkind]
  cases hphase : s.phase with
  | ended => exact absurd hphase hended
  | fresh | running | closing => rfl

private theorem handle_cancel (hended : s.phase ≠ .ended) (hkind : m.kind = .cancel) (disk : Disk) :
    s.handle disk m = (s, m.refuse .invalidRequest) := by
  unfold Message.kind at hkind
  unfold handle
  rw [hkind]
  cases hphase : s.phase with
  | ended => exact absurd hphase hended
  | fresh | running | closing => rfl

private theorem refused_of_idle {phase : Phase} {server : Server}
    (hphase : phase = .fresh ∨ phase = .closing) (hrouted : m.kind.isRouted = true) (disk : Disk) :
    ∃ fault, handle disk ⟨phase, server⟩ m = (⟨phase, server⟩, m.refuse fault) := by
  cases hkind : m.kind with
  | setup | exit | cancel | unknown => simp [hkind, Method.isRouted] at hrouted
  | _ =>
    unfold Message.kind at hkind
    rcases hphase with rfl | rfl
    · exact ⟨.notReady, by simp [handle, hkind]⟩
    · exact ⟨.invalidRequest, by simp [handle, hkind]⟩

private theorem next_of_unrouted (hrouted : m.kind.isRouted = false) {phase : Phase}
    (hadmits : phase.admits m = false) : phase.next m = phase := by
  cases phase with
  | closing | ended => rfl
  | fresh => simpa [Phase.next, Phase.admits] using hadmits
  | running => cases hkind : m.kind <;> simp_all [Phase.next, Method.isRouted, Method.isShutdown]

private theorem handle_routed {phase : Phase} {server : Server} (hrouted : m.kind.isRouted = true)
    (hended : phase ≠ .ended) (hadmits : phase.admits m = false) (disk : Disk) :
    ∃ fault, handle disk ⟨phase, server⟩ m = (⟨phase.next m, server⟩, m.refuse fault) := by
  have hsetup := Method.isSetup_of_isRouted hrouted
  cases phase with
  | ended => exact absurd rfl hended
  | closing => exact refused_of_idle (.inr rfl) hrouted disk
  | fresh =>
    have hnext : Phase.fresh.next m = .fresh := by simp [Phase.next, Message.starts, hsetup]
    rw [hnext]
    exact refused_of_idle (.inl rfl) hrouted disk
  | running =>
    rw [handle_running disk hrouted]
    apply serve_of_no_call
    simpa [Phase.admits, Message.continues, hsetup] using hadmits

private theorem handle_setup {phase : Phase} {server : Server} (hkind : m.kind = .setup)
    (hended : phase ≠ .ended) (hadmits : phase.admits m = false) (disk : Disk) :
    ∃ fault, handle disk ⟨phase, server⟩ m = (⟨phase, server⟩, m.refuse fault) := by
  cases phase with
  | ended => exact absurd rfl hended
  | fresh =>
    rw [handle_fresh disk hkind]
    apply start_of_no_call disk hkind
    simpa [Phase.admits, Message.starts, hkind, Method.isSetup] using hadmits
  | running | closing =>
    refine ⟨.invalidRequest, ?_⟩
    unfold Message.kind at hkind
    simp [handle, hkind]

theorem handle_refused (hexit : m.method ≠ "exit") (hended : s.phase ≠ .ended)
    (hadmits : s.phase.admits m = false) (disk : Disk) :
    ∃ fault, s.handle disk m =
      (⟨s.phase.next m, s.server⟩, if m.isIgnored then {} else m.refuse fault) := by
  have hknown : m.kind.isUnknown = false → m.isIgnored = false := by
    intro h
    simp [Message.isIgnored, h]
  have hkinds : m.kind = .exit ∨ m.kind = .unknown ∨ m.kind = .cancel ∨ m.kind = .setup ∨
      m.kind.isRouted = true ∧ m.kind.isUnknown = false := by
    cases m.kind <;> simp [Method.isRouted, Method.isUnknown]
  rcases hkinds with hkind | hkind | hkind | hkind | ⟨hrouted, hunknown⟩
  · exact absurd hkind (Message.kind_ne_exit hexit)
  · rw [next_of_unrouted (by rw [hkind]; rfl) hadmits]
    exact ⟨_, handle_unknown hended hkind disk⟩
  · rw [next_of_unrouted (by rw [hkind]; rfl) hadmits, hknown (by rw [hkind]; rfl)]
    exact ⟨_, handle_cancel hended hkind disk⟩
  · rw [next_of_unrouted (by rw [hkind]; rfl) hadmits, hknown (by rw [hkind]; rfl)]
    exact handle_setup hkind hended hadmits disk
  · rw [hknown hunknown]
    exact handle_routed hrouted hended hadmits disk

end Session
end Regimen
