import SyscallPolicy.Settings
import SyscallPolicy.Toml.Reader

/-!
# Settings as TOML documents

A document has a section for each group of settings.  A section is a table of fields, an
array of their values in order, or a moment, which gives none of them; absent sections and
fields keep their defaults, and unknown ones are passed over.  A document is refused when
it is not well formed, when a field holds a value of the wrong kind, or when the settings
break a rule.
-/

namespace SyscallPolicy

open Toml (string? boolean? natural? strings?)

/-- Why a document gives no settings. -/
inductive SettingsFailure where
  /-- It is not well formed, or a field holds a value of the wrong kind. -/
  | malformed
  /-- The settings in it break a rule. -/
  | broken (rule : SettingsRule)
  /-- The file could not be read as text. -/
  | unreadableFile (path : String)
  /-- The file was read, but gives no settings. -/
  | invalidFile (path : String)
  deriving DecidableEq, Repr

/-- The text of a failure. -/
def SettingsFailure.message : SettingsFailure → String
  | malformed => "Failed to parse TOML config"
  | broken rule => rule.message
  | unreadableFile path => "Failed to read config file: " ++ path
  | invalidFile path => "Invalid config file: " ++ path

/-- What a field holds, or its default if it is absent. -/
def fieldOr {α : Type} (read? : Toml → Option α) (missing : α) : Option Toml → Option α
  | some value => read? value
  | none => some missing

def LogSettings.ofToml? (group : Toml) : Option LogSettings := do
  match ← group.fields? ["path"] with
  | [path] => return ⟨← fieldOr string? ({} : LogSettings).path path⟩
  | _ => none

def SynthesisSettings.ofToml? (group : Toml) : Option SynthesisSettings := do
  match ← group.fields? ["architectures", "nil_profile_for_no_calls"] with
  | [targets, nilForNoCalls] =>
    return ⟨← fieldOr strings? ({} : SynthesisSettings).targets targets,
      ← fieldOr boolean? ({} : SynthesisSettings).nilForNoCalls nilForNoCalls⟩
  | _ => none

def SearchSettings.ofToml? (group : Toml) : Option SearchSettings := do
  match ← group.fields? ["max_parallel_probes", "candidates"] with
  | [parallel, candidates] =>
    return ⟨← fieldOr (fun value => (natural? value).map some) none parallel,
      ← fieldOr (fun value => (strings? value).map some) none candidates⟩
  | _ => none

def RunnerSettings.ofToml? (group : Toml) : Option RunnerSettings := do
  match ← group.fields? ["timeout_secs", "unconstrained_value"] with
  | [timeoutSecs, unconstrained] =>
    return ⟨← fieldOr natural? ({} : RunnerSettings).timeoutSecs timeoutSecs,
      ← fieldOr string? ({} : RunnerSettings).unconstrained unconstrained⟩
  | _ => none

namespace Settings

def ofToml? (document : Toml) : Option Settings := do
  match ← document.fields? ["log", "synthesis", "brute_force", "runner"] with
  | [log, synthesis, search, runner] =>
    return ⟨← fieldOr LogSettings.ofToml? {} log,
      ← fieldOr SynthesisSettings.ofToml? {} synthesis,
      ← fieldOr SearchSettings.ofToml? {} search,
      ← fieldOr RunnerSettings.ofToml? {} runner⟩
  | _ => none

/-- The valid settings that a text gives. -/
def ofText (text : String) : Except SettingsFailure Settings :=
  match (Toml.read? text.toList).bind ofToml? with
  | none => .error .malformed
  | some settings =>
    match settings.validate with
    | .error rule => .error (.broken rule)
    | .ok () => .ok settings

/-- The valid settings in a file, given what reading the file gave. -/
def ofFile (path : String) (bytes? : Option ByteArray) : Except SettingsFailure Settings :=
  match bytes?.bind String.fromUTF8? with
  | none => .error (.unreadableFile path)
  | some text =>
    match ofText text with
    | .error _ => .error (.invalidFile path)
    | .ok settings => .ok settings

end Settings

end SyscallPolicy
