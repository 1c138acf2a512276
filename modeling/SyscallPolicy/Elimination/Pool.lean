import Mathlib.Algebra.BigOperators.Group.List.Basic
import Mathlib.Algebra.Ring.Nat
import Mathlib.Logic.Relation
import SyscallPolicy.Elimination.Search

/-!
# The pool of workers

A search may share its trials among several workers.  The candidates wait in one queue.
Each worker takes the next of them, looks at the stop flag, runs the trial, and notes the
candidate when it turns out to be required.  A worker whose trial could not be run raises
the flag, reports the fault unless another one was reported before, and ends.  A worker
that sees the flag raised ends too, and the candidate that it took is not probed.

`Act` is what one worker does in one step, and `Pool.Step` lets any worker take its step,
so a path of steps is an interleaving.  The pool does not look at its candidates, so their
type is a parameter; a search puts places of its universe into the queue.
-/

namespace SyscallPolicy.Elimination

open Workload (RunFailure)

/-- What a worker does next. -/
inductive Worker (α : Type) where
  /-- It takes the next candidate, or ends when there is none. -/
  | idle
  /-- It looks at the stop flag. -/
  | received (candidate : α)
  /-- It starts the trial. -/
  | cleared (candidate : α)
  /-- It finishes the trial, which is running. -/
  | probing (candidate : α)
  /-- It notes that the candidate is required. -/
  | found (candidate : α)
  /-- It raises the stop flag, since the trial could not be run. -/
  | faulted (candidate : α) (fault : RunFailure)
  /-- It reports the fault. -/
  | raised (candidate : α) (fault : RunFailure)
  /-- Nothing any more. -/
  | ended
  deriving DecidableEq, Repr

namespace Worker

variable {α : Type}

/-- Whether a trial of the worker is running. -/
def isProbing : Worker α → Bool
  | probing _ => true
  | _ => false

/-- The most steps that a worker still takes if the queue is empty. -/
def effort : Worker α → Nat
  | received _ => 5
  | cleared _ => 4
  | probing _ => 3
  | found _ => 2
  | faulted .. => 2
  | raised .. => 1
  | idle => 1
  | ended => 0

end Worker

/-- What the workers share. -/
structure Board (α : Type) where
  /-- The candidates that no worker has taken. -/
  queue : List α
  /-- The stop flag. -/
  stop : Bool := false
  /-- The candidates noted as required, the latest first. -/
  required : List α := []
  /-- The first fault that was reported. -/
  fault : Option (α × RunFailure) := none
  /-- The candidates whose trials were started, in that order. -/
  started : List α := []
  deriving DecidableEq, Repr

/-- What the board says when all workers have ended. -/
def Board.result {α : Type} (b : Board α) : Except (α × RunFailure) (List α) :=
  match b.fault with
  | some fault => .error fault
  | none => .ok b.required

/-- What a look at the stop flag shows. -/
inductive Sight where
  /-- The flag as it is. -/
  | current
  /-- The flag as it is, or as it was before it was raised. -/
  | stale
  deriving DecidableEq, Repr

/-- One step of one worker, with what it changes on the board. -/
inductive Act {α : Type} (probe : α → Except RunFailure Bool) (sight : Sight) :
    Board α → Worker α → Board α → Worker α → Prop
  | take {b : Board α} {c : α} {rest : List α} (next : b.queue = c :: rest) :
      Act probe sight b .idle { b with queue := rest } (.received c)
  | leave {b : Board α} (empty : b.queue = []) :
      Act probe sight b .idle b .ended
  | goOn {b : Board α} {c : α} (clear : sight = .stale ∨ b.stop = false) :
      Act probe sight b (.received c) b (.cleared c)
  | heed {b : Board α} {c : α} (raised : b.stop = true) :
      Act probe sight b (.received c) b .ended
  | start {b : Board α} {c : α} :
      Act probe sight b (.cleared c) { b with started := b.started ++ [c] } (.probing c)
  | spare {b : Board α} {c : α} (outcome : probe c = .ok false) :
      Act probe sight b (.probing c) b .idle
  | find {b : Board α} {c : α} (outcome : probe c = .ok true) :
      Act probe sight b (.probing c) b (.found c)
  | note {b : Board α} {c : α} :
      Act probe sight b (.found c) { b with required := c :: b.required } .idle
  | fail {b : Board α} {c : α} {fault : RunFailure} (outcome : probe c = .error fault) :
      Act probe sight b (.probing c) b (.faulted c fault)
  | raise {b : Board α} {c : α} {fault : RunFailure} :
      Act probe sight b (.faulted c fault) { b with stop := true } (.raised c fault)
  | report {b : Board α} {c : α} {fault : RunFailure} :
      Act probe sight b (.raised c fault) { b with fault := b.fault.or (some (c, fault)) } .ended

/-- The workers and what they share. -/
structure Pool (α : Type) where
  board : Board α
  workers : List (Worker α)
  deriving DecidableEq, Repr

namespace Pool

variable {α : Type}

/-- The pool of this many workers before their first steps: all candidates are in the
queue. -/
def start (candidates : List α) (workers : Nat) : Pool α :=
  ⟨{ queue := candidates }, List.replicate workers .idle⟩

/-- One step of the pool is a step of one of its workers. -/
inductive Step (probe : α → Except RunFailure Bool) (sight : Sight) : Pool α → Pool α → Prop
  | of {b b' : Board α} {w w' : Worker α} (before after : List (Worker α))
      (act : Act probe sight b w b' w') :
      Step probe sight ⟨b, before ++ w :: after⟩ ⟨b', before ++ w' :: after⟩

/-- A run of the pool is a path of steps. -/
abbrev Reaches (probe : α → Except RunFailure Bool) (sight : Sight) : Pool α → Pool α → Prop :=
  Relation.ReflTransGen (Step probe sight)

/-- Whether all workers have ended. -/
def IsComplete (p : Pool α) : Prop :=
  ∀ w ∈ p.workers, w = .ended

instance [DecidableEq α] (p : Pool α) : Decidable p.IsComplete :=
  inferInstanceAs (Decidable (∀ w ∈ p.workers, w = .ended))

/-- The number of trials that are running. -/
def running (p : Pool α) : Nat :=
  p.workers.countP Worker.isProbing

/-- The most steps that are left: a candidate in the queue takes five. -/
def work (p : Pool α) : Nat :=
  5 * p.board.queue.length + (p.workers.map Worker.effort).sum

end Pool

/-- The reports that a discovery by a pool may give. -/
inductive MayReport (runner : Runner) (u : Universe) (workers : Nat) (sight : Sight) :
    Report → Prop
  | aborted {failure : RunFailure} (fails : runner none = .error failure) :
      MayReport runner u workers sight ⟨[none], .error (.executionAborted failure)⟩
  | completed {p : Pool u.Place} (succeeds : runner none = .ok ())
      (run : Pool.Reaches (probe runner u) sight (.start u.probes workers) p)
      (complete : p.IsComplete) :
      MayReport runner u workers sight ⟨runsOf u p.board.started, answerOf u p.board.result⟩

/-- The answers that a discovery by a pool may give when every run may come out in any
way, whatever came out before. -/
inductive MayAnswer (u : Universe) (workers : Nat) : Except Failure (Option Rule) → Prop
  | aborted {failure : RunFailure} : MayAnswer u workers (.error (.executionAborted failure))
  | completed {p : Pool u.Place}
      (run : Relation.ReflTransGen (fun p q => ∃ probe sight, Pool.Step probe sight p q)
        (.start u.probes workers) p)
      (complete : p.IsComplete) : MayAnswer u workers (answerOf u p.board.result)

end SyscallPolicy.Elimination
