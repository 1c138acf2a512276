import SyscallPolicy.Duration

/-!
# Outcomes of a workload

A run of a workload either succeeds or fails in one of four ways.  Three of them say
something about the workload; a harness fault says that nothing was run at all, so
nothing can be concluded from it.
-/

namespace SyscallPolicy.Workload

/-- Why a run did not succeed. -/
inductive RunFailure where
  /-- The workload ended with this exit status. -/
  | exited (code : Int)
  /-- The workload was ended by a signal. -/
  | signalled
  /-- The workload was still running when its time was over. -/
  | timedOut (after : Duration)
  /-- The run could not be set up or watched. -/
  | harness (reason : String)
  deriving DecidableEq, Repr

/-- What a run comes to. -/
abbrev Outcome := Except RunFailure Unit

namespace RunFailure

/-- Whether the failure says nothing about the workload itself. -/
def isHarnessFault : RunFailure → Bool
  | harness _ => true
  | _ => false

/-- The text of a failure. -/
def message : RunFailure → String
  | exited code => "workload exited with status " ++ toString code
  | signalled => "workload terminated by a signal"
  | timedOut after => "workload timed out after " ++ after.render
  | harness reason => reason

end RunFailure

end SyscallPolicy.Workload
