import Regimen.Proofs.Runs

/-! What the server offers and what it then does. A setup offers the services of the settings that it
puts in force. Without a local folder it puts none in force and offers what the defaults would. -/
namespace Regimen

def Answer.offer? : Answer → Option Capabilities
  | .capabilities offered => some offered
  | _ => none

/-- What the last answer to a setup offers. -/
def latestOffer? (answers : List Answer) : Option Capabilities :=
  (answers.filterMap Answer.offer?).getLast?

def latestFolder? (run : List Arrival) : Option (Option Path) :=
  (run.filterMap (·.call.setupFolder?)).getLast?

/-- What a setup offers, by its folder and the settings that are in force after it. -/
def Settings.offer (s : Settings) (folder : Option Path) : Capabilities :=
  if folder.isSome then s.capabilities else ({} : Settings).capabilities

inductive Service where
  | formatting
  | folding

namespace Service

def enabled (s : Settings) : Service → Bool
  | .formatting => s.format.enabled
  | .folding => s.folding.enabled

def offered (offer : Capabilities) : Service → Bool
  | .formatting => offer.formatting
  | .folding => offer.folding

def request (u : Uri) : Service → Call
  | .formatting => .formatting u
  | .folding => .folding u

private theorem offered_offer_iff (service : Service) (s : Settings) (folder : Option Path) :
    service.offered (s.offer folder) = service.enabled s ↔
      folder.isSome = true ∨ service.enabled s = true := by
  cases folder <;> cases service <;>
    simp [offered, enabled, Settings.offer, Settings.capabilities]

end Service

def Answer.isGiven : Answer → Bool
  | .edits result => result.isSome
  | .folds result => result.isSome
  | _ => false

namespace Server

private theorem offer?_handle (disk : Disk) (s : Server) (call : Call) :
    (s.handle disk call).2.offer? =
      call.setupFolder?.map (s.handle disk call).1.settings.offer := by
  cases call with
  | setup folders root =>
    simp only [handle, Call.setupFolder?, Answer.offer?, Option.map_some]
    cases workspacePath? folders root <;> rfl
  | changed | saved => simp [handle_changed, handle_saved, Call.setupFolder?, Answer.offer?]
  | opened | ready | shutdown | closed | formatting | folding => rfl

private theorem latestOffer?_answers (s : Server) (run : List Arrival) :
    latestOffer? (s.answers run) = (latestFolder? run).map (s.after run).settings.offer := by
  induction run using List.reverseRecOn with
  | nil => rfl
  | append_singleton run a ih =>
    unfold latestOffer? latestFolder? at ih ⊢
    rw [answers_append, answers, answers, getLast?_filterMap_concat, getLast?_filterMap_concat, ih,
      offer?_handle, after_append, after_cons, after_nil]
    cases hfolder : a.call.setupFolder? with
    | some folder => rfl
    | none =>
      have hsettings : ((s.after run).handle a.disk a.call).1.settings = (s.after run).settings := by
        simp [settings_handle, Call.settings?, hfolder]
      rw [hsettings]
      rfl

private theorem isGiven_request {s : Server} {u : Uri} {t : Text} (disk : Disk) (service : Service)
    (hstored : s.text? u = some t) :
    (s.handle disk (service.request u)).2.isGiven = service.enabled s.settings := by
  cases service with
  | formatting =>
    cases h : s.settings.format.enabled <;>
      simp [handle, Service.request, Service.enabled, Answer.isGiven, edits?, h, hstored]
  | folding =>
    cases h : s.settings.folding.enabled <;>
      simp [handle, Service.request, Service.enabled, Answer.isGiven, folds?, h, hstored]

/-- The latest offer of a service is kept if and only if the latest setup had a local folder, or the
settings of the latest setup that had one enable the service anyway. -/
theorem offers_kept_iff (run : List Arrival) (folder : Option Path)
    (hsetup : latestFolder? run = some folder) :
    let s := ({} : Server).after run
    let inForce := (latestSettings? run).getD {}
    ∃ offer, latestOffer? (({} : Server).answers run) = some offer ∧ ∀ service : Service,
      (service.offered offer = service.enabled s.settings ↔
        folder.isSome = true ∨ service.enabled inForce = true) ∧
      ∀ disk u t, s.text? u = some t →
        ((s.handle disk (service.request u)).2.isGiven = service.offered offer ↔
          folder.isSome = true ∨ service.enabled inForce = true) := by
  intro s inForce
  have hsettings : s.settings = inForce := settings_after {} run
  refine ⟨inForce.offer folder, ?_, fun service => ?_⟩
  · rw [latestOffer?_answers, hsetup, ← hsettings]
    rfl
  · have hkept := service.offered_offer_iff inForce folder
    refine ⟨hsettings ▸ hkept, fun disk u t hstored => ?_⟩
    rw [isGiven_request disk service hstored, hsettings, eq_comm]
    exact hkept

theorem offers_kept_folding_off :
    let disk : Disk := fun _ => .regular "[folding]\nenabled = false\n".toUTF8
    let folder : Uri := ⟨"memfs".toList, none, .path [['w']], []⟩
    let page : Uri := ⟨Uri.fileScheme, some [], .path [['a']], []⟩
    let run : List Arrival :=
      [⟨disk, .setup none none⟩, ⟨disk, .opened page ['a']⟩, ⟨disk, .setup (some [folder]) none⟩]
    let s := ({} : Server).after run
    latestOffer? (({} : Server).answers run) = some ⟨true, false⟩ ∧
      s.settings.format.enabled = true ∧ s.settings.folding.enabled = false ∧
      (s.handle disk (.formatting page)).2.isGiven = true ∧
      (s.handle disk (.folding page)).2.isGiven = false := by
  intro disk folder page run s
  have hstored : s.text? page = some ['a'] := by simp [s, run, text?_handle, Call.closes, Call.text?]
  have hlatest : latestOffer? (({} : Server).answers run) = some ⟨true, false⟩ := by decide +kernel
  obtain ⟨offer, hoffer, hkept⟩ :=
    offers_kept_iff run (some (['/', 'w'].map Char.toUInt8)) (by decide)
  obtain rfl : ⟨true, false⟩ = offer := Option.some.inj (hlatest.symm.trans hoffer)
  have hformat := hkept .formatting
  have hfolding := hkept .folding
  exact ⟨hlatest, (hformat.1.2 (.inl rfl)).symm, (hfolding.1.2 (.inl rfl)).symm,
    (hformat.2 disk page ['a'] hstored).2 (.inl rfl), (hfolding.2 disk page ['a'] hstored).2 (.inl rfl)⟩

/-- A second setup without a folder offers formatting, which the settings of the first one rule out. -/
theorem offer_broken_without_folder :
    let disk : Disk := fun _ => .regular "[format]\nenabled = false\n".toUTF8
    let folder : Uri := ⟨Uri.fileScheme, some [], .path [['w']], []⟩
    let page : Uri := ⟨Uri.fileScheme, some [], .path [['a']], []⟩
    let run : List Arrival :=
      [⟨disk, .setup none (some folder)⟩, ⟨disk, .setup none none⟩, ⟨disk, .opened page ['a']⟩]
    let s := ({} : Server).after run
    latestOffer? (({} : Server).answers run) = some ⟨true, true⟩ ∧ s.settings.format.enabled = false ∧
      s.text? page = some ['a'] ∧ (s.handle disk (.formatting page)).2 = .edits none := by
  intro disk folder page run s
  have hdisabled : s.settings.format.enabled = false := by
    change (Settings.ofWorkspace (disk (['/', 'w'].map Char.toUInt8))).format.enabled = false
    decide +kernel
  refine ⟨rfl, hdisabled, ?_, ?_⟩
  · simp [s, run, handle, page]
  · simp [handle, edits?, hdisabled]

end Server
end Regimen
