import Regimen.Settings.Basic
import Regimen.Toml.Parser

/-! Settings as TOML text. A section is a table of named fields or an array of them in order; what is
missing has its default, and what is unknown is ignored. -/
namespace Regimen
open Toml

def fieldOr (decode : Value → Option α) (default : α) : Option Value → Option α
  | none => some default
  | some v => decode v

def Toml.Value.truth? : Value → Option Bool
  | .boolean b => some b
  | _ => none

def Toml.Value.size? : Value → Option Nat
  | .integer (.ofNat n) => some n
  | _ => none

/-- How a section finds its fields: the one with a name, or the one at a position. A date or time
stands for a section without fields. -/
def Toml.Value.fields? : Value → Option (Text → Nat → Option Value)
  | .table _ entries => some fun name _ => Entries.get? entries name
  | .array items => some fun _ i => items[i]?
  | .tables elements => some fun _ i => elements[i]?.map (.table .header)
  | .dateTime _ => some fun _ _ => none
  | _ => none

namespace FormatSettings

def ofFields (field : Text → Nat → Option Value) : Option FormatSettings := do
  let enabled ← fieldOr Value.truth? true (field "enabled".toList 0)
  let width ← fieldOr Value.size? Layout.defaultWidth (field "indent_width".toList 1)
  return ⟨enabled, width⟩

def ofValue (v : Value) : Option FormatSettings := v.fields?.bind ofFields

end FormatSettings

namespace FoldingSettings

def ofFields (field : Text → Nat → Option Value) : Option FoldingSettings := do
  return ⟨← fieldOr Value.truth? true (field "enabled".toList 0)⟩

def ofValue (v : Value) : Option FoldingSettings := v.fields?.bind ofFields

end FoldingSettings

namespace Settings

def ofEntries (entries : Entries) : Option Settings := do
  let format ← fieldOr FormatSettings.ofValue {} (entries.get? "format".toList)
  let folding ← fieldOr FoldingSettings.ofValue {} (entries.get? "folding".toList)
  return ⟨format, folding⟩

/-- The settings that a TOML document describes, whether or not they are valid. -/
def ofToml (t : Text) : Except SettingsError Settings :=
  match (Toml.parse t).bind ofEntries with
  | some s => .ok s
  | none => .error .malformed

theorem ofToml_of_ne_ok {t : Text} (h : ∀ s, ofToml t ≠ .ok s) : ofToml t = .error .malformed := by
  unfold ofToml at h ⊢
  split <;> simp_all

def boolText (b : Bool) : Text := if b then "true".toList else "false".toList

def numberText (n : Nat) : Text := Nat.toDigits 10 n

/-- The settings as a TOML document. Integers of TOML end at `2 ^ 63 - 1`, so a greater width cannot
be written. -/
def toToml? (s : Settings) : Option Text :=
  if s.format.indentWidth ≤ maxInteger then
    some ("[format]\nenabled = ".toList ++ boolText s.format.enabled
      ++ "\nindent_width = ".toList ++ numberText s.format.indentWidth
      ++ "\n\n[folding]\nenabled = ".toList ++ boolText s.folding.enabled ++ "\n".toList)
  else none

end Settings
end Regimen
