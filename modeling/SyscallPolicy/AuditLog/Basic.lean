import SyscallPolicy.AuditLog.Record
import SyscallPolicy.ByteStream
import SyscallPolicy.Failure
import SyscallPolicy.Profile.Basic
import SyscallPolicy.Syscall.Table
import SyscallPolicy.Text.Lossy

/-!
# Audit logs as a source of system calls

A query reads the log from where the one before left off and reports the calls that the
lines record for a set of processes, each once, in the order of their first record.  It
stops behind a line whose call number the table does not assign; the next query goes on
there and knows nothing of the calls before it.  Without a process to look for, or with
a negative process number, a query reads nothing.
-/

namespace SyscallPolicy

/-- A log that is being read. -/
structure AuditLog where
  /-- The lines still to be read. -/
  unread : List Line
  /-- The failure that meets a reader behind them, if any. -/
  fault : Option String
  /-- The processes whose calls count. -/
  pids : List Int
  deriving DecidableEq, Repr

namespace AuditLog

/-- The log in a stream. -/
def ofStream (stream : ByteStream) (pids : List Int) : AuditLog :=
  ⟨stream.lines, stream.fault, pids⟩

/-- The call number that a line records. -/
def lineId? (pids : List Int) (line : Line) : Option Nat :=
  syscallId? pids (Text.decodeLossy line)

/-- Reads lines up to one with an unassigned number: the names of the numbers that are
not among `seen`, or the unassigned number; and the lines left. -/
def scan (pids : List Int) (seen : List Nat) : List Line → Except Nat (List String) × List Line
  | [] => (.ok [], [])
  | line :: rest =>
    match lineId? pids line with
    | none => scan pids seen rest
    | some id =>
      if seen.contains id then scan pids seen rest
      else
        match Syscall.nameOf? id with
        | none => (.error id, rest)
        | some name =>
          match scan pids (id :: seen) rest with
          | (.ok names, left) => (.ok (name :: names), left)
          | (.error id, left) => (.error id, left)

/-- Whether there is a process to look for and none that cannot exist. -/
def isSearchable (pids : List Int) : Bool :=
  !pids.isEmpty && pids.all (0 ≤ ·)

/-- The calls found, as an allowing rule; no calls are no rule. -/
def discovery : List String → Option Rule
  | [] => none
  | names => some (.allow names)

/-- One query: its answer, and the log behind it. -/
def query (log : AuditLog) : Except Failure (Option Rule) × AuditLog :=
  if isSearchable log.pids then
    match scan log.pids [] log.unread with
    | (.error id, left) => (.error (.unsupportedSyscall id), { log with unread := left })
    | (.ok names, left) =>
      match log.fault with
      | some reason => (.error (.io reason), { log with unread := left })
      | none => (.ok (discovery names), { log with unread := left })
  else (.ok none, log)

end AuditLog

end SyscallPolicy
