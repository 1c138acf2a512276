import SyscallPolicy.Host.Process
import SyscallPolicy.Host.Utility.Options

/-!
# Utilities of a host

A utility is called with arguments, by a process with a working directory and an environment.
What it does is an act that comes to a status.  Many utilities only work out what they print,
which is then printed in order; the first thing that cannot be written ends it.
-/

namespace SyscallPolicy.Host.Utility

/-- A call of a utility. -/
structure Call where
  /-- The name under which it is called. -/
  name : Octets
  args : List Octets
  /-- The working directory. -/
  here : List String
  /-- The handles of what is open. -/
  table : List (Nat × Nat)
  /-- What can be seen when it is called. -/
  view : View
  environment : List (Octets × Octets) := []

/-- Where something is printed. -/
inductive Outlet where
  | output
  /-- Complaints have an outlet of their own. -/
  | complaints
  deriving DecidableEq

/-- What a utility comes to. -/
structure Finished where
  status : Nat
  /-- What it prints, in order. -/
  prints : List (Outlet × Octets) := []
  /-- Its status if its output cannot be written. -/
  unwritten : Nat := 1

/-- A utility that prints its output at its end, behind what it complains about. -/
def Finished.saying (status : Nat) (output complaints : Octets) : Finished :=
  { status, prints := [(.complaints, complaints), (.output, output)] }

/-- The descriptor of an outlet. -/
def Outlet.descriptor : Outlet → Nat
  | output => 1
  | complaints => 2

namespace Call

/-- A line of complaint. -/
def complaint (call : Call) (text : Octets) : Octets :=
  call.name ++ ": ".toList ++ text ++ ['\n']

/-- A call that comes to nothing. -/
def fail (call : Call) (status : Nat) (text : Octets) : Finished :=
  .saying status [] (call.complaint text)

/-- The complaint about a path. -/
def pathComplaint (call : Call) (path : Octets) (failure : FileFailure) : Octets :=
  call.complaint (path ++ ": ".toList ++ failure.reason.toList)

/-- Where help can be found about a call that makes no sense. -/
def hint (call : Call) : Octets :=
  "Try '".toList ++ call.name ++ " --help' for more information.\n".toList

/-- The complaint about a call that makes no sense. -/
def badUsage (call : Call) (status : Nat) (fault : Octets) : Finished :=
  .saying status [] (call.complaint fault ++ call.hint)

/-- What a path leads to; a single hyphen is the standard input. -/
def channelAt (call : Call) (path : Octets) : Except FileFailure Channel :=
  if path = ['-'] then
    ((call.view.openFile? 0).map (·.channel)).elim (.error .badDescriptor) .ok
  else call.view.channelAt call.here path

/-- The operands, or the standard input if there are none. -/
def sources (operands : List Octets) : List Octets :=
  if operands.isEmpty then [['-']] else operands

/-- The arguments of a call.  The environment can ask for options in front only. -/
def arguments {α : Type} [DecidableEq α] (call : Call) (table : OptionTable α) : Arguments α :=
  table.read ((call.environment.lookup "POSIXLY_CORRECT".toList).isSome) call.args

/-! ### Printing -/

/-- Complains about something. -/
def say (call : Call) (text : Octets) : Act Unit := do
  let _ ← Act.write 2 (call.complaint text)

/-- Complains that nothing can be written.  The reason is forgotten if something was done in
between, unless there is nowhere to write. -/
def sayUnwritten (call : Call) (failure : FileFailure) (isFresh : Bool) : Act Unit :=
  call.say ("write error".toList ++
    (if isFresh || failure = .badDescriptor then ": ".toList ++ failure.reason.toList else []))

/-- Prints something in order, and complains at the end about output that cannot be written.
Tells whether all went well. -/
def printAll (call : Call) (prints : List (Outlet × Octets)) : Act Bool := do
  let print (failure? : Option (FileFailure × Bool)) (part : Outlet × Octets) :
      Act (Option (FileFailure × Bool)) := do
    match part.1, ← Act.write part.1.descriptor part.2 with
    | .output, .error failure => return some (failure, true)
    | .output, .ok () => return failure?
    | .complaints, _ =>
      return if part.2.isEmpty then failure? else failure?.map fun failure => (failure.1, false)
  match ← prints.foldlM print none with
  | none => return true
  | some (failure, isFresh) =>
    call.sayUnwritten failure isFresh
    return false

/-- Prints output; the process ends if that cannot be written. -/
def put (call : Call) (unwritten : Nat) (text : Octets) : Act Unit := do
  match ← Act.write 1 text with
  | .ok () => return
  | .error failure =>
    call.sayUnwritten failure true
    Act.exit unwritten

/-- Prints what a utility has worked out. -/
def tell (call : Call) (finished : Finished) : Act Nat := do
  return if ← call.printAll finished.prints then finished.status else finished.unwritten

/-! ### Reading -/

/-- What something open leads to. -/
def channel? (call : Call) (descriptor : Nat) : Option Channel :=
  (call.view.openFile? descriptor).map (·.channel)

/-- The descriptor for a file that is opened meanwhile. -/
def spare (call : Call) : Nat :=
  (call.table.map (·.1)).foldl max 2 + 1

/-- Opens a path for reading while something is done with it, which is given its descriptor. -/
def reading {α : Type} (call : Call) (path : Octets) (use : Nat → Act α) :
    Act (Except FileFailure α) := do
  match ← Act.open_ call.here (Octets.toText path) .read with
  | .error failure => return .error failure
  | .ok handle =>
    Act.connect ((call.spare, handle) :: call.table)
    let found ← use call.spare
    Act.connect call.table
    return .ok found

/-- Opens a path for reading while something is done with it; a single hyphen is the standard
input. -/
def source {α : Type} (call : Call) (path : Octets) (use : Nat → Act α) :
    Act (Except FileFailure α) := do
  if path = ['-'] then return .ok (← use 0) else call.reading path use

/-- The greatest number of portions that are read. -/
def greatestPortions : Nat := 1000000

/-- The greatest text that is kept. -/
def greatestText : Nat := 4000000

/-- Goes through what can be read from a descriptor, portion by portion, with a state in which
something is kept.  The end comes as an empty portion.  It stops when the state says so. -/
def eachPortion {σ : Type} (descriptor portion : Nat) (isOver : σ → Bool)
    (take : σ → Octets → Act σ) : Nat → σ → Act (σ × Option FileFailure)
  | 0, state => do
    Act.sleep none
    return (state, none)
  | fuel + 1, state => do
    match ← Act.read descriptor portion true with
    | .error failure => return (state, some failure)
    | .ok text =>
      let state ← take state text
      if text.isEmpty || isOver state then return (state, none)
      else eachPortion descriptor portion isOver take fuel state

/-- All that can be read from a descriptor, and why nothing more can be. -/
def readAll (descriptor portion : Nat) : Act (Octets × Option FileFailure) := do
  let keep (kept : List Octets × Nat) (text : Octets) : Act (List Octets × Nat) := do
    let size := kept.2 + text.length
    if greatestText < size then Act.sleep none
    return (text :: kept.1, size)
  let (kept, failure?) ←
    eachPortion descriptor portion (fun _ => false) keep greatestPortions ([], 0)
  return (kept.1.reverse.flatten, failure?)

/-- The texts of files, or why they cannot be read. -/
def texts (call : Call) : List Octets → Act (List (Octets × Except FileFailure Octets))
  | [] => return []
  | path :: rest => do
    let text ← match ← call.source path fun descriptor => readAll descriptor 32768 with
      | .error failure => pure (.error failure)
      | .ok (_, some failure) => pure (.error failure)
      | .ok (text, none) => pure (.ok text)
    return (path, text) :: (← call.texts rest)

end Call

end SyscallPolicy.Host.Utility
