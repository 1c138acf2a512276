import SyscallPolicy.AuditLog.Basic

/-!
# The history of a log

Whoever asks a log again and again gets one answer for each line that records an
unassigned number, then the calls of the lines behind the last of them, and then nothing
new.  `answerAt` says so at once, without going from one query to the next; `askAgain`
asks.
-/

namespace SyscallPolicy.AuditLog

/-- The answers to so many queries in a row, and the log behind them. -/
def askAgain : Nat → AuditLog → List (Except Failure (Option Rule)) × AuditLog
  | 0, log => ([], log)
  | n + 1, log =>
    let (answer, log) := log.query
    let (answers, log) := askAgain n log
    (answer :: answers, log)

/-- The lines that record an unassigned number: the place of each, and the number. -/
def obstacles (log : AuditLog) : List (Nat × Nat) :=
  log.unread.zipIdx.filterMap fun (line, place) =>
    match lineId? log.pids line with
    | some id => if (Syscall.nameOf? id).isNone then some (place, id) else none
    | none => none

/-- The number of lines up to the last obstacle, and with it. -/
def openEnd (log : AuditLog) : Nat :=
  match log.obstacles.getLast? with
  | some (place, _) => place + 1
  | none => 0

/-- The calls that the lines behind all obstacles record, each once. -/
def remainingCalls (log : AuditLog) : List String :=
  (((log.unread.drop log.openEnd).filterMap (lineId? log.pids)).eraseDups).filterMap
    Syscall.nameOf?

/-- The answer to the query that comes after so many others. -/
def answerAt (log : AuditLog) (earlier : Nat) : Except Failure (Option Rule) :=
  match log.obstacles[earlier]?, log.fault with
  | some (_, id), _ => .error (.unsupportedSyscall id)
  | none, some reason => .error (.io reason)
  | none, none =>
    .ok (if earlier = log.obstacles.length then discovery log.remainingCalls else none)

/-- What is unread after so many queries. -/
def unreadAfter (log : AuditLog) : Nat → List Line
  | 0 => log.unread
  | n + 1 =>
    match log.obstacles[n]? with
    | some (place, _) => log.unread.drop (place + 1)
    | none => []

end SyscallPolicy.AuditLog
