import Regimen.Settings.Toml

/-! The settings file of a workspace. Its state is data here; reading it is the caller's affair. -/
namespace Regimen

/-- Whether there is a regular file, and what reading gives, which may fail for a file that is there. -/
structure SettingsFile where
  isRegular : Bool
  bytes : Except ReadError ByteArray

namespace SettingsFile

def missing : SettingsFile := ⟨false, .error .missing⟩

def directory : SettingsFile := ⟨false, .error .directory⟩

def regular (bytes : ByteArray) : SettingsFile := ⟨true, .ok bytes⟩

def unreadable (reason : String) : SettingsFile := ⟨true, .error (.refused reason)⟩

def read (file : SettingsFile) : Except SettingsError Text :=
  match file.bytes with
  | .error cause => .error (.read cause)
  | .ok bytes =>
    match String.fromUTF8? bytes with
    | some s => .ok s.toList
    | none => .error (.read .encoding)

end SettingsFile

namespace Settings

/-- Reads, decodes and validates; the first step that fails gives the error. -/
def load (file : SettingsFile) : Except SettingsError Settings := do
  let s ← ofToml (← file.read)
  s.validate
  return s

def discover (file : SettingsFile) : Except SettingsError (Option Settings) :=
  if file.isRegular then (load file).map some else .ok none

end Settings
end Regimen
