/-!
# Actions

What the kernel does with a call that a policy speaks about, and the identifier under
which each action is written in a document.
-/

namespace SyscallPolicy

/-- The disposition of a call. -/
inductive Action where
  | allow
  | errno
  | kill
  | killProcess
  | killThread
  | trap
  | trace
  | log
  | notify
  deriving DecidableEq, Repr

namespace Action

/-- A document that names no action means refusal with an error number. -/
instance : Inhabited Action := ⟨errno⟩

/-- All actions. -/
def all : List Action :=
  [allow, errno, kill, killProcess, killThread, trap, trace, log, notify]

/-- The identifier of an action in a document. -/
def wire : Action → String
  | allow => "SCMP_ACT_ALLOW"
  | errno => "SCMP_ACT_ERRNO"
  | kill => "SCMP_ACT_KILL"
  | killProcess => "SCMP_ACT_KILL_PROCESS"
  | killThread => "SCMP_ACT_KILL_THREAD"
  | trap => "SCMP_ACT_TRAP"
  | trace => "SCMP_ACT_TRACE"
  | log => "SCMP_ACT_LOG"
  | notify => "SCMP_ACT_NOTIFY"

/-- The action with this identifier. -/
def ofWire? (identifier : String) : Option Action :=
  all.find? (·.wire == identifier)

/-- Whether the kernel refuses the call. -/
def isBlocking : Action → Bool
  | errno | kill | killProcess | killThread | trap => true
  | allow | trace | log | notify => false

/-- Whether the call goes through; a logged call is still executed. -/
def isPermitting : Action → Bool
  | allow | log => true
  | errno | kill | killProcess | killThread | trap | trace | notify => false

end Action

end SyscallPolicy
