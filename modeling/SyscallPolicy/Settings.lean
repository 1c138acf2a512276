import SyscallPolicy.Duration

/-!
# Settings

What a discovery can be told: where its log is, how its findings become a profile, what
it probes and how long a run may take.  Each setting has a default.  Settings are valid
when a search may run at least one trial at a time and has a candidate, and a run may
take at least a second; `validate` names the first rule that is broken.
-/

namespace SyscallPolicy

/-- Where records are read from. -/
structure LogSettings where
  path : String := "/var/log/syslog"
  deriving DecidableEq, Repr

/-- How findings become a profile. -/
structure SynthesisSettings where
  /-- The targets that the profile applies to. -/
  targets : List String := ["amd64"]
  /-- Whether finding nothing means that there is no profile; otherwise it means a profile
  that refuses every call. -/
  nilForNoCalls : Bool := false
  deriving DecidableEq, Repr

/-- What a search probes, and how. -/
structure SearchSettings where
  /-- The most trials that may run at one time. -/
  parallel : Option Nat := none
  /-- The names to probe instead of the common ones. -/
  candidates : Option (List String) := none
  deriving DecidableEq, Repr

/-- How a workload is run. -/
structure RunnerSettings where
  timeoutSecs : Nat := 60
  /-- What stands for a profile in a run without one. -/
  unconstrained : String := "unconfined"
  deriving DecidableEq, Repr

/-- All settings. -/
structure Settings where
  log : LogSettings := {}
  synthesis : SynthesisSettings := {}
  search : SearchSettings := {}
  runner : RunnerSettings := {}
  deriving DecidableEq, Repr

/-- The time that a run may take. -/
def RunnerSettings.timeout (s : RunnerSettings) : Duration :=
  .ofSeconds s.timeoutSecs

/-- A rule that settings break. -/
inductive SettingsRule where
  | parallelPositive
  | candidatesNonempty
  | timeoutPositive
  deriving DecidableEq, Repr

/-- The rule in words. -/
def SettingsRule.message : SettingsRule → String
  | parallelPositive => "max_parallel_probes must be >= 1"
  | candidatesNonempty => "candidates must not be empty when set"
  | timeoutPositive => "timeout_secs must be >= 1"

namespace Settings

/-- Checks the rules in their order. -/
def validate (s : Settings) : Except SettingsRule Unit :=
  if s.search.parallel = some 0 then .error .parallelPositive
  else if s.search.candidates = some [] then .error .candidatesNonempty
  else if s.runner.timeoutSecs = 0 then .error .timeoutPositive
  else .ok ()

end Settings

end SyscallPolicy
