import SyscallPolicy.Workload.Outcome

/-!
# Waiting for a child process

A child that was started is looked at again and again until it has ended, cannot be
watched, or has reached its deadline; in the last two cases it is killed and reaped.  An
end that is seen counts, whatever the clock says.  The loop is a function of what it gets
to see: the results of looking, with a reading of the clock when the child still runs.

The clock counts whole seconds in 64 bits with a sign, so a deadline may be out of range.
-/

namespace SyscallPolicy.Workload

/-- A reading of the monotonic clock. -/
structure Instant where
  secs : Int
  nanos : Nat
  deriving DecidableEq, Repr

namespace Instant

/-- The first second that the clock cannot show any more. -/
def secsBound : Int := 9223372036854775808

/-- The instant that comes a duration later, if the clock can show it. -/
def add? (i : Instant) (d : Duration) : Option Instant :=
  let nanos := i.nanos + d.nanos
  let secs := i.secs + d.secs + (nanos / Duration.nanosPerSecond : Nat)
  if secs < secsBound then some ⟨secs, nanos % Duration.nanosPerSecond⟩ else none

/-- Whether an instant is at or past another. -/
def reached (deadline now : Instant) : Bool :=
  deadline.secs < now.secs || (deadline.secs == now.secs && deadline.nanos ≤ now.nanos)

end Instant

/-- How a child ended: with a status, or by a signal. -/
inductive ExitStatus where
  | code (value : Int)
  | signal
  deriving DecidableEq, Repr

/-- What a look at a child shows. -/
inductive Poll where
  /-- It still runs, and the clock shows this. -/
  | running (now : Instant)
  /-- It has ended, and is reaped by being looked at. -/
  | ended (status : ExitStatus)
  /-- It cannot be looked at. -/
  | failed (reason : String)
  deriving DecidableEq, Repr

/-- What is done to a child. -/
inductive ChildEvent where
  | spawn
  | pause
  | kill
  | reap
  deriving DecidableEq, Repr

/-- How the waiting came to its end. -/
structure Awaited where
  events : List ChildEvent
  result : Except RunFailure ExitStatus
  deriving Repr

/-- Waits as long as there is something to see; `none` if that is not long enough. -/
def await (timeout : Duration) (deadline : Instant) : List Poll → Option Awaited
  | [] => none
  | .ended status :: _ => some ⟨[.reap], .ok status⟩
  | .failed reason :: _ =>
    some ⟨[.kill, .reap], .error (.harness ("cannot wait for workload: " ++ reason))⟩
  | .running now :: polls =>
    if deadline.reached now then some ⟨[.kill, .reap], .error (.timedOut timeout)⟩
    else (await timeout deadline polls).map fun a => { a with events := .pause :: a.events }

/-- What a way of ending means for the workload. -/
def ExitStatus.outcome : ExitStatus → Outcome
  | .code value => if value = 0 then .ok () else .error (.exited value)
  | .signal => .error .signalled

end SyscallPolicy.Workload
