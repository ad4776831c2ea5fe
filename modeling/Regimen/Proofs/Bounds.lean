import Regimen.Proofs.Runs

/-! Settings in force are valid settings, whatever the settings files of the workspaces hold. A file is
validated after it is decoded, and what fails on the way falls back to the defaults, so no run of calls
makes the server lay a document out with a width outside 1 to 16. -/
namespace Regimen

namespace Settings

private theorem validate_default : ({} : Settings).validate = .ok () := rfl

theorem load_of_decoded {file : SettingsFile} {t : Text} {s : Settings} (hread : file.read = .ok t)
    (hdecode : ofToml t = .ok s) : load file = s.validate.map fun _ => s := by
  cases hvalid : s.validate <;>
    simp [load, bind, Except.bind, pure, Except.pure, Except.map, hread, hdecode, hvalid]

private theorem load_eq_ok {file : SettingsFile} {s : Settings} :
    load file = .ok s ↔
      ∃ t, file.read = .ok t ∧ ofToml t = .ok s ∧ s.validate = .ok () := by
  constructor
  · intro h
    obtain ⟨t, hread, h⟩ := bind_eq_ok.1 h
    obtain ⟨s', hdecode, h⟩ := bind_eq_ok.1 h
    obtain ⟨_, hvalid, h⟩ := bind_eq_ok.1 h
    cases h
    exact ⟨t, hread, hdecode, hvalid⟩
  · rintro ⟨t, hread, hdecode, hvalid⟩
    rw [load_of_decoded hread hdecode, hvalid]
    rfl

theorem load_of_discover {file : SettingsFile} {s : Settings} (h : discover file = .ok (some s)) :
    load file = .ok s := by
  unfold discover at h
  split at h
  · cases hload : load file with
    | error e => simp [hload, Except.map] at h
    | ok s' => simpa [hload, Except.map] using h
  · simp at h

private theorem validate_ofWorkspace (file : SettingsFile) : (ofWorkspace file).validate = .ok () := by
  unfold ofWorkspace
  split
  next h =>
    obtain ⟨_, _, _, hvalid⟩ := load_eq_ok.1 (load_of_discover h)
    exact hvalid
  next => exact validate_default

end Settings

namespace Server

private theorem validate_handle {s : Server} (h : s.settings.validate = .ok ()) (disk : Disk)
    (call : Call) : (s.handle disk call).1.settings.validate = .ok () := by
  rw [settings_handle, Call.settings?]
  cases call.setupFolder?.join with
  | none => exact h
  | some path => exact Settings.validate_ofWorkspace (disk path)

private theorem validate_after {s : Server} (h : s.settings.validate = .ok ()) (run : List Arrival) :
    (s.after run).settings.validate = .ok () := by
  induction run generalizing s with
  | nil => exact h
  | cons a run ih =>
    rw [after_cons]
    exact ih (validate_handle h a.disk a.call)

/-- After every run the settings in force are valid, and documents are laid out with their width. -/
theorem widths_in_bounds (run : List Arrival) :
    let s := ({} : Server).after run
    let width := s.settings.format.indentWidth
    s.settings.validate = .ok () ∧ 1 ≤ width ∧ width ≤ 16 ∧
      ∀ disk u, (s.handle disk (.formatting u)).2 =
        .edits (if s.settings.format.enabled then (s.text? u).map (Layout.edits width) else none) := by
  intro s width
  have hvalid : s.settings.validate = .ok () := validate_after Settings.validate_default run
  obtain ⟨hlow, hhigh⟩ := Settings.validate_eq_ok.1 hvalid
  exact ⟨hvalid, hlow, hhigh, fun disk u => rfl⟩

end Server
end Regimen
