import Regimen.Layout

/-! What a workspace can set: whether its documents are laid out and folded, and how wide an
indentation unit is. -/
namespace Regimen

structure FormatSettings where
  enabled : Bool := true
  indentWidth : Nat := Layout.defaultWidth
deriving DecidableEq, Repr

structure FoldingSettings where
  enabled : Bool := true
deriving DecidableEq, Repr

structure Settings where
  format : FormatSettings := {}
  folding : FoldingSettings := {}
deriving DecidableEq, Repr

inductive ReadError where
  | missing
  | directory
  | encoding
  /-- The system refuses, for the reason given. -/
  | refused (reason : String)
deriving DecidableEq, Repr

/-- The first step of loading settings that failed. -/
inductive SettingsError where
  | read (cause : ReadError)
  | malformed
  | indentWidth (value : Nat)
deriving DecidableEq, Repr

namespace Settings

def maxIndentWidth : Nat := 16

def fileName : String := "liftoscript.toml"

def validate (s : Settings) : Except SettingsError Unit :=
  if 1 ≤ s.format.indentWidth ∧ s.format.indentWidth ≤ maxIndentWidth then .ok ()
  else .error (.indentWidth s.format.indentWidth)

theorem validate_eq_ok {s : Settings} :
    s.validate = .ok () ↔ 1 ≤ s.format.indentWidth ∧ s.format.indentWidth ≤ maxIndentWidth := by
  unfold validate
  split <;> simp_all

end Settings

def ReadError.message : ReadError → String
  | .missing => "No such file or directory (os error 2)"
  | .directory => "Is a directory (os error 21)"
  | .encoding => "stream did not contain valid UTF-8"
  | .refused reason => reason

/-- The message of a malformed file is the reader's own. -/
def SettingsError.message? : SettingsError → Option String
  | .read cause => some ("IO error: " ++ cause.message)
  | .malformed => none
  | .indentWidth value =>
    some s!"indent_width must be between 1 and {Settings.maxIndentWidth}, got {value}"

end Regimen
