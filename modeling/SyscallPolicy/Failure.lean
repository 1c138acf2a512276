import SyscallPolicy.Workload.Outcome

/-!
# Failures of discovery and analysis

Every operation that can fail does so with one of these causes.  `message` is the only
place where a cause is put into words.
-/

namespace SyscallPolicy

open Workload (RunFailure)

/-- Why a discovery, a synthesis or an audit failed. -/
inductive Failure where
  /-- The document to audit is not a profile. -/
  | invalidProfile
  /-- The audited profile exposes this many high-risk calls. -/
  | highRiskAllowed (count : Nat)
  /-- A log names a call number that the table does not assign. -/
  | unsupportedSyscall (id : Nat)
  /-- There is no built-in allow list of this name. -/
  | unknownTemplate (name : String)
  /-- The workload does not even run without a profile. -/
  | executionAborted (cause : RunFailure)
  /-- The trial that withholds `syscall` could not be run. -/
  | probeHarness (syscall : String) (cause : RunFailure)
  /-- The log file could not be opened. -/
  | logUnavailable (path reason : String)
  /-- The executable could not be analysed. -/
  | extraction (path reason : String)
  /-- Reading failed. -/
  | io (reason : String)
  deriving DecidableEq, Repr

namespace Failure

/-- The text of a failure. -/
def message : Failure → String
  | invalidProfile => "profile content is invalid"
  | highRiskAllowed count =>
    "profile allows high-risk system calls (" ++ toString count ++ " found)"
  | unsupportedSyscall id => "syscall id " ++ toString id ++ " not supported"
  | unknownTemplate name => "invalid template name: " ++ name
  | executionAborted cause =>
    "execution aborted, command could not be executed: " ++ cause.message
  | probeHarness syscall cause =>
    "probe for syscall '" ++ syscall ++ "' could not be run: " ++ cause.message
  | logUnavailable path reason =>
    "syslog file '" ++ path ++ "' could not be opened: " ++ reason
  | extraction path reason => "binary extraction failed for '" ++ path ++ "': " ++ reason
  | io reason => "IO error: " ++ reason

/-- The text of the failure that lies beneath this one, if one does. -/
def cause? : Failure → Option String
  | executionAborted cause => some cause.message
  | probeHarness _ cause => some cause.message
  | logUnavailable _ reason => some reason
  | io reason => some reason
  | _ => none

end Failure

end SyscallPolicy
