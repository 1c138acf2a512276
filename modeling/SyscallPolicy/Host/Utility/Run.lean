import SyscallPolicy.Host.Utility.Change
import SyscallPolicy.Host.Utility.Condition
import SyscallPolicy.Host.Utility.Count
import SyscallPolicy.Host.Utility.Grep.Run
import SyscallPolicy.Host.Utility.Pause
import SyscallPolicy.Host.Utility.Print
import SyscallPolicy.Host.Utility.Text

/-!
# Running utilities

Which utility a program is.  A shell, and a program that starts another one, are none.
-/

namespace SyscallPolicy.Host.Utility

/-- Prints the environment. -/
def showEnvironment (call : Call) : Finished :=
  .saying 0 (call.environment.flatMap fun (name, value) => name ++ '=' :: value ++ ['\n']) []

/-- Runs a program that is a utility, up to its status. -/
def run (call : Call) : Program → Act Nat
  | .shell => pure 2
  | .true_ => pure 0
  | .false_ => pure 1
  | .sleep => sleep call
  | .test => call.tell (test call)
  | .bracket => call.tell (bracket call)
  | .echo => call.tell (echo call)
  | .print => call.tell (print call)
  | .cat => cat call
  | .grep => grep call
  | .wordCount => wordCount call
  | .head => head call
  | .tail => tail call
  | .counting => call.tell (counting call)
  | .baseName => call.tell (baseName call)
  | .directoryName => call.tell (directoryName call)
  | .environment => call.tell (showEnvironment call)
  | .touch => touch call
  | .remove => remove call
  | .makeDirectory => makeDirectory call

end SyscallPolicy.Host.Utility
