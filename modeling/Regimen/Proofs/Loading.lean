import Regimen.Proofs.Bounds

/-! A setup loads the settings of a workspace as a whole or not at all. A file comes to settings if it can
be read, decoded and validated; the first of these steps that fails gives the error, and the server then
has the defaults, whatever the file says elsewhere and whatever was in force before. -/
namespace Regimen

/-- Reading gives the text in valid UTF-8. -/
def SettingsFile.Holds (file : SettingsFile) (text : String) : Prop :=
  ∃ bytes, file.bytes = .ok bytes ∧ String.fromUTF8? bytes = some text

/-- What a settings file comes to: its settings, or the first step at which it fails. -/
inductive SettingsFile.Yields (file : SettingsFile) : Except SettingsError Settings → Prop where
  | unread {cause : ReadError} : file.bytes = .error cause → file.Yields (.error (.read cause))
  | encoding {bytes : ByteArray} : file.bytes = .ok bytes → String.fromUTF8? bytes = none →
      file.Yields (.error (.read .encoding))
  | malformed {text : String} : file.Holds text → (∀ s, Settings.ofToml text.toList ≠ .ok s) →
      file.Yields (.error .malformed)
  | indentWidth {text : String} {s : Settings} : file.Holds text →
      Settings.ofToml text.toList = .ok s →
      ¬ (1 ≤ s.format.indentWidth ∧ s.format.indentWidth ≤ 16) →
      file.Yields (.error (.indentWidth s.format.indentWidth))
  | loaded {text : String} {s : Settings} : file.Holds text → Settings.ofToml text.toList = .ok s →
      1 ≤ s.format.indentWidth → s.format.indentWidth ≤ 16 → file.Yields (.ok s)

namespace Settings

private theorem load_of_unread {file : SettingsFile} {e : SettingsError}
    (hread : file.read = .error e) : load file = .error e := by
  simp [load, bind, Except.bind, hread]

private theorem load_of_undecoded {file : SettingsFile} {t : Text} (hread : file.read = .ok t)
    (hdecode : ∀ s, ofToml t ≠ .ok s) : load file = .error .malformed := by
  simp [load, bind, Except.bind, hread, ofToml_of_ne_ok hdecode]

private theorem read_of_holds {file : SettingsFile} {text : String} (h : file.Holds text) :
    file.read = .ok text.toList := by
  obtain ⟨bytes, hbytes, hutf8⟩ := h
  simp [SettingsFile.read, hbytes, hutf8]

private theorem read_of_unread {file : SettingsFile} {cause : ReadError}
    (h : file.bytes = .error cause) : file.read = .error (.read cause) := by
  simp [SettingsFile.read, h]

private theorem read_of_encoding {file : SettingsFile} {bytes : ByteArray} (h : file.bytes = .ok bytes)
    (hutf8 : String.fromUTF8? bytes = none) : file.read = .error (.read .encoding) := by
  simp [SettingsFile.read, h, hutf8]

private theorem validate_eq_error {s : Settings}
    (h : ¬ (1 ≤ s.format.indentWidth ∧ s.format.indentWidth ≤ 16)) :
    s.validate = .error (.indentWidth s.format.indentWidth) := if_neg h

private theorem yields_of_holds {file : SettingsFile} {text : String} (h : file.Holds text) :
    file.Yields (load file) := by
  have hread := read_of_holds h
  by_cases hdecode : ∃ s, ofToml text.toList = .ok s
  · obtain ⟨s, hs⟩ := hdecode
    rw [load_of_decoded hread hs]
    by_cases hvalid : 1 ≤ s.format.indentWidth ∧ s.format.indentWidth ≤ 16
    · rw [validate_eq_ok.2 hvalid]
      exact .loaded h hs hvalid.1 hvalid.2
    · rw [validate_eq_error hvalid]
      exact .indentWidth h hs hvalid
  · have hundecoded : ∀ s, ofToml text.toList ≠ .ok s := fun s hs => hdecode ⟨s, hs⟩
    rw [load_of_undecoded hread hundecoded]
    exact .malformed h hundecoded

private theorem yields_load (file : SettingsFile) : file.Yields (load file) := by
  cases hbytes : file.bytes with
  | error cause =>
    rw [load_of_unread (read_of_unread hbytes)]
    exact .unread hbytes
  | ok bytes =>
    cases hutf8 : String.fromUTF8? bytes with
    | none =>
      rw [load_of_unread (read_of_encoding hbytes hutf8)]
      exact .encoding hbytes hutf8
    | some text => exact yields_of_holds ⟨bytes, hbytes, hutf8⟩

private theorem load_eq_of_yields {file : SettingsFile} {r : Except SettingsError Settings}
    (h : file.Yields r) : load file = r := by
  cases h with
  | unread hbytes => exact load_of_unread (read_of_unread hbytes)
  | encoding hbytes hutf8 => exact load_of_unread (read_of_encoding hbytes hutf8)
  | malformed hholds hdecode => exact load_of_undecoded (read_of_holds hholds) hdecode
  | indentWidth hholds hdecode hvalid =>
    rw [load_of_decoded (read_of_holds hholds) hdecode, validate_eq_error hvalid]
    rfl
  | loaded hholds hdecode hlow hhigh =>
    rw [load_of_decoded (read_of_holds hholds) hdecode, validate_eq_ok.2 ⟨hlow, hhigh⟩]
    rfl

private theorem load_eq_iff {file : SettingsFile} {r : Except SettingsError Settings} :
    load file = r ↔ file.Yields r :=
  ⟨fun h => h ▸ yields_load file, load_eq_of_yields⟩

private theorem discover_of_isRegular {file : SettingsFile} (h : file.isRegular = true) :
    discover file = (load file).map some := if_pos h

private theorem discover_of_not_isRegular {file : SettingsFile} (h : file.isRegular = false) :
    discover file = .ok none := by
  simp [discover, h]

private theorem isRegular_of_discover {file : SettingsFile} {s : Settings}
    (h : discover file = .ok (some s)) : file.isRegular = true := by
  cases hregular : file.isRegular with
  | true => rfl
  | false => simp [discover_of_not_isRegular hregular] at h

private theorem ofWorkspace_of_yields {file : SettingsFile} {s : Settings}
    (hregular : file.isRegular = true) (h : file.Yields (.ok s)) : ofWorkspace file = s := by
  rw [ofWorkspace, discover_of_isRegular hregular, load_eq_of_yields h, Except.map]

private theorem ofWorkspace_of_rejected {file : SettingsFile}
    (h : ∀ s, ¬ (file.isRegular = true ∧ file.Yields (.ok s))) : ofWorkspace file = {} := by
  unfold ofWorkspace
  split
  next s hs => exact absurd ⟨isRegular_of_discover hs, load_eq_iff.1 (load_of_discover hs)⟩ (h s)
  next => rfl

end Settings

private theorem workspacePath?_eq {folders : Option (List Uri)} {root : Option Uri} {uri : Uri}
    (h : (∃ others, folders = some (uri :: others)) ∨
      (folders = none ∨ folders = some []) ∧ root = some uri) :
    workspacePath? folders root = uri.path? := by
  rcases h with ⟨others, rfl⟩ | ⟨rfl | rfl, rfl⟩ <;> rfl

namespace Server

/-- After a setup with a local folder the server has the settings that the folder's file comes to, or the
defaults if it comes to none; it offers what they say, and its documents are as before. Only a regular
file counts as one that is there, and what it comes to is told by the first step that fails. -/
theorem setup_all_or_nothing (run : List Arrival) (disk : Disk) (folders : Option (List Uri))
    (root : Option Uri) (uri : Uri) (path : Path)
    (hroot : (∃ others, folders = some (uri :: others)) ∨
      (folders = none ∨ folders = some []) ∧ root = some uri)
    (hpath : uri.path? = some path) :
    let s := ({} : Server).after run
    let r := s.handle disk (.setup folders root)
    let file := disk path
    r.2 = .capabilities r.1.settings.capabilities ∧
    (∀ settings, file.isRegular = true → file.Yields (.ok settings) → r.1.settings = settings) ∧
    ((∀ settings, ¬ (file.isRegular = true ∧ file.Yields (.ok settings))) → r.1.settings = {}) ∧
    r.1.documents = s.documents ∧
    (file.isRegular = false → Settings.discover file = .ok none) ∧
    (file.isRegular = true → Settings.discover file = (Settings.load file).map some) ∧
    ∀ result, Settings.load file = result ↔ file.Yields result := by
  intro s r file
  have hr : r = ({ s with settings := .ofWorkspace file },
      .capabilities (Settings.ofWorkspace file).capabilities) := by
    simp only [r, file, handle, workspacePath?_eq hroot, hpath, setup]
  rw [hr]
  exact ⟨rfl, fun settings => Settings.ofWorkspace_of_yields, Settings.ofWorkspace_of_rejected, rfl,
    Settings.discover_of_not_isRegular, Settings.discover_of_isRegular, fun result => Settings.load_eq_iff⟩

theorem setup_all_or_nothing_bad_width :
    let folder : Uri := ⟨"memfs".toList, none, .path [['w']], []⟩
    let path : Path := ['/', 'w'].map Char.toUInt8
    let before : Disk := fun _ => .regular "[folding]\nenabled = false\n".toUTF8
    let invalid : Disk := fun _ => .regular "[format]\nenabled = false\nindent_width = 0\n".toUTF8
    let denied : Disk := fun _ => .unreadable "Permission denied (os error 13)"
    let s := ({} : Server).after [⟨before, .setup none (some folder)⟩]
    s.settings.folding.enabled = false ∧
      (s.handle invalid (.setup (some []) (some folder))).1.settings = {} ∧
      Settings.load (invalid path) = .error (.indentWidth 0) ∧
      (s.handle denied (.setup (some [folder]) none)).1.settings = {} ∧
      Settings.load (denied path) = .error (.read (.refused "Permission denied (os error 13)")) := by
  intro folder path before invalid denied s
  have hinvalid : Settings.load (invalid path) = .error (.indentWidth 0) := by decide +kernel
  have hdenied : Settings.load (denied path) =
      .error (.read (.refused "Permission denied (os error 13)")) := rfl
  have hpath : folder.path? = some path := by decide
  let run : List Arrival := [⟨before, .setup none (some folder)⟩]
  obtain ⟨-, -, hrejected, -, -, -, hload⟩ := setup_all_or_nothing run invalid (some []) (some folder)
    folder path (.inr ⟨.inr rfl, rfl⟩) hpath
  obtain ⟨-, -, hrejected', -, -, -, hload'⟩ := setup_all_or_nothing run denied (some [folder]) none
    folder path (.inl ⟨[], rfl⟩) hpath
  refine ⟨?_, hrejected fun settings h => ?_, hinvalid, hrejected' fun settings h => ?_, hdenied⟩
  · change (Settings.ofWorkspace (before path)).folding.enabled = false
    decide +kernel
  · have hloaded := (hload (.ok settings)).2 h.2
    rw [hinvalid] at hloaded
    cases hloaded
  · have hloaded := (hload' (.ok settings)).2 h.2
    rw [hdenied] at hloaded
    cases hloaded

end Server
end Regimen
