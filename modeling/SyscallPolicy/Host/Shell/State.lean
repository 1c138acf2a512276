import SyscallPolicy.Host.Process
import SyscallPolicy.Host.Shell.Limits
import SyscallPolicy.Host.Shell.Source
import SyscallPolicy.Host.Shell.Syntax
import SyscallPolicy.Host.Signal

/-!
# Shells in processes

What a shell knows while it runs a script, and what it does: a deed changes what the shell
knows, makes requests to the host, and comes to a result or leaves the place in the script where
it is.  How scripts are run is asked from a function, so that what commands do can be said
before it is said what scripts do.
-/

namespace SyscallPolicy.Host.Shell

/-- Children in the background, the stages of a pipe or a single one. -/
structure Job where
  /-- Its number among the jobs. -/
  number : Nat
  /-- The numbers of its processes, and how they have ended. -/
  processes : List (Nat × Option Ending)
  /-- Whether it was waited for. -/
  isReaped : Bool := false

/-- What is known about a variable. -/
structure Binding where
  value? : Option Octets
  isExported : Bool := false
  isReadonly : Bool := false

/-- How a script goes on, where that is not with the next command. -/
inductive Jump where
  /-- Behind so many loops. -/
  | breaking (loops : Nat)
  /-- With the next round of a loop, out of so many. -/
  | continuing (loops : Nat)
  /-- Behind a function or a file of commands. -/
  | returning
  /-- Not at all, since something is wrong. -/
  | failing
  /-- Not at all, since it was asked to end. -/
  | exiting
  deriving DecidableEq, Repr

/-- What a shell knows. -/
structure State where
  /-- The number of the process that the shell began in, which scripts see. -/
  main : Nat
  /-- The number of commands that were run, with more for long texts and many jobs. -/
  steps : Nat := 0
  here : List String := workingDirectory
  /-- What the working directory is called. -/
  hereName : Octets
  /-- Descriptors and the handles that they stand for. -/
  descriptors : List (Nat × Nat)
  /-- Signals that were ignored from the beginning. -/
  ignored : List Nat := []
  /-- Actions for signals; an empty one ignores a signal. -/
  traps : List (Nat × Octets) := []
  /-- Signals whose actions are still to be run. -/
  pending : List Nat := []
  /-- The jobs, the first one first. -/
  jobs : List Job := []
  lastJob : Option Nat := none
  /-- What stands for the shell itself. -/
  name : Octets
  /-- The number of the line that complaints name. -/
  line : Nat := 1
  /-- The number of the line up to which the script was read. -/
  lineRead : Nat := 1
  /-- The command of the shell that is carried out, if there is one. -/
  about : Octets := []
  parameters : List Octets := []
  bindings : List (Octets × Binding) := []
  functions : List (Octets × Script) := []
  aliases : Aliases := []
  /-- The letters of the options that are set. -/
  options : List Char := []
  /-- For each command with variables of its own, what they were before. -/
  frames : List (List (Octets × Option Binding)) := []
  status : Nat := 0
  /-- The status of the last command substitution in a command. -/
  substituted : Nat := 0
  /-- The status at which an action began, while it runs. -/
  saved : Option Nat := none
  /-- How many loops are around. -/
  loops : Nat := 0
  /-- How many functions are around. -/
  calls : Nat := 0
  /-- The number of the next argument that `getopts` looks at. -/
  argument : Nat := 1
  /-- The place of the next letter inside of it. -/
  letter : Nat := 0
  mask : Nat := 18
  limits : List Resource := Resource.standard

/-- What a shell does: an act that changes what the shell knows, up to a result or a jump. -/
abbrev Deed := ExceptT Jump (StateT State Act)

/-- How a script is run. -/
structure Mode where
  /-- Whether its status is looked at, so that it may be no success. -/
  isTested : Bool := false
  /-- Whether nothing comes behind it in its process. -/
  isLast : Bool := false

/-- A way to run scripts. -/
abbrev Run := Mode → Script → Deed Unit

/-- A command that a shell carries out itself. -/
abbrev Builtin := List Octets → Deed Unit

/-- Whether a script does not go on in any of its parts. -/
def Jump.isRaised : Jump → Bool
  | failing => true
  | exiting => true
  | _ => false

/-- The path of a place. -/
def pathOf (place : List String) : Octets :=
  if place.isEmpty then ['/']
  else place.flatMap fun part => '/' :: Octets.ofString part

namespace State

/-- The letters of the options. -/
def optionLetters : List Char :=
  ['e', 'f', 'I', 'i', 'm', 'n', 's', 'x', 'v', 'V', 'E', 'C', 'a', 'b', 'u', 'p']

/-- Whether an option is set. -/
def has (s : State) (option : Char) : Bool := s.options.contains option

/-- Sets an option or takes it back. -/
def withOption (s : State) (isOn : Bool) (letter : Char) : State :=
  let others := s.options.filter (· != letter)
  { s with options := if isOn then letter :: others else others }

/-! ### Variables -/

/-- What is known about a variable. -/
def binding? (s : State) (name : Octets) : Option Binding := s.bindings.lookup name

/-- The value of a variable. -/
def valueOf? (s : State) (name : Octets) : Option Octets := (s.binding? name).bind (·.value?)

/-- Whether a variable may not be changed. -/
def isFixed (s : State) (name : Octets) : Bool := (s.binding? name).any (·.isReadonly)

/-- Replaces what is known about a variable. -/
def rebind (s : State) (name : Octets) (binding? : Option Binding) : State :=
  { s with bindings :=
      (binding?.map fun b => (name, b)).toList ++ s.bindings.filter fun b => b.1 != name }

/-- Gives a value to a variable.  One variable is the number of the next argument that `getopts`
looks at. -/
def withValue (s : State) (name value : Octets) : State :=
  let s := if name = "OPTIND".toList then
      { s with argument := max 1 ((Octets.count? value).getD 1), letter := 0 }
    else s
  match s.binding? name with
  | some b => s.rebind name (some { b with value? := some value })
  | none => s.rebind name (some { value? := some value, isExported := s.has 'a' })

/-- Hands a variable on to programs. -/
def exporting (s : State) (name : Octets) : State :=
  match s.binding? name with
  | some b => s.rebind name (some { b with isExported := true })
  | none => s

/-- Remembers what is known about a variable, in the frame of the innermost command.  A
hyphen stands for the options. -/
def remember (s : State) (name : Octets) : State :=
  match s.frames with
  | frame :: rest =>
    let known := if name = ['-'] then some { value? := some s.options } else s.binding? name
    if frame.any fun entry => entry.1 == name then s
    else { s with frames := ((name, known) :: frame) :: rest }
  | [] => s

/-- Brings back what was remembered about a variable. -/
def bringBack (s : State) (entry : Octets × Option Binding) : State :=
  if entry.1 = ['-'] then { s with options := (entry.2.bind (·.value?)).getD [] }
  else s.rebind entry.1 entry.2

/-- Opens a frame. -/
def enter (s : State) : State := { s with frames := [] :: s.frames }

/-- Closes frames until so many are left, and brings back what they remember. -/
def leaveTo (s : State) (count : Nat) : State :=
  let closed := (s.frames.take (s.frames.length - count)).flatten
  closed.foldl bringBack
    { s with frames := s.frames.drop (s.frames.length - count) }

/-- The variables that are handed on to programs. -/
def environment (s : State) : List (Octets × Octets) :=
  s.bindings.filterMap fun (name, b) =>
    if b.isExported then b.value?.map fun value => (name, value) else none

/-- Where programs are looked for. -/
def directories (s : State) : List String :=
  match s.valueOf? "PATH".toList with
  | some path => (Octets.cut ':' path).map Octets.toText
  | none => []

/-- The characters that separate fields. -/
def separators (s : State) : Octets :=
  (s.valueOf? "IFS".toList).getD [' ', '\t', '\n']

/-- What stands between parameters that are made one text. -/
def joint (s : State) : Octets :=
  match s.valueOf? "IFS".toList with
  | some ifs => ifs.take 1
  | none => [' ']

/-- The value of a parameter that is no list. -/
def parameter? (s : State) (name : Octets) : Option Octets :=
  match name with
  | ['$'] => some (Octets.numeral s.main)
  | ['?'] => some (Octets.numeral s.status)
  | ['#'] => some (Octets.numeral s.parameters.length)
  | ['!'] => s.lastJob.map Octets.numeral
  | ['-'] => some (optionLetters.reverse.filter s.has)
  | ['@'] => some (Octets.join s.joint s.parameters)
  | ['*'] => some (Octets.join s.joint s.parameters)
  | _ =>
    if name.all Char.isDigit then
      match name.foldl (fun n c => n * 10 + Octets.digitValue c) 0 with
      | 0 => some s.name
      | n + 1 => s.parameters[n]?
    else s.valueOf? name

/-! ### Signals and processes -/

/-- Whether actions for signals are arranged. -/
def hasActions (s : State) : Bool := s.traps.any fun trap => !trap.2.isEmpty

/-- Lets go of the actions for signals. -/
def letGo (s : State) : Act Unit := do
  for (signal, action) in s.traps do
    if !action.isEmpty && signal != 0 then Act.arrange signal .standard
  if s.hasActions then
    let _ ← Act.notice

/-- What a child with the same shell knows. -/
def forked (s : State) : State :=
  { s with
    steps := 0, traps := s.traps.filter fun trap => trap.2.isEmpty
    pending := [], jobs := [], saved := none }

/-- The status that a child leaves. -/
def statusOf : Ending → Nat
  | .status value => value
  | .signal number => 128 + number

/-- The first number from another one on that is not among these, which are in order. -/
def firstGap : Nat → List Nat → Nat
  | number, [] => number
  | number, taken :: rest => if taken = number then firstGap (number + 1) rest else number

/-- The number for a new job: the first one that is free, or whose job was waited for. -/
def nextJob (s : State) : Nat :=
  let kept := s.jobs.filter fun job => !job.isReaped
  firstGap 1 ((kept.map (·.number)).mergeSort)

/-- Forgets the job whose number is used again for a child. -/
def withoutNextJob (s : State) : State :=
  let next := s.nextJob
  { s with jobs := s.jobs.filter fun job => job.number != next }

/-- Takes down how a child in the background has ended. -/
def withEnding (s : State) (process : Nat) (ending : Ending) : State :=
  let noted (entry : Nat × Option Ending) : Nat × Option Ending :=
    if entry.1 = process then (process, some ending) else entry
  { s with jobs := s.jobs.map fun job => { job with processes := job.processes.map noted } }

end State

/-- Whether processes of a job still run. -/
def Job.isRunning (job : Job) : Bool := job.processes.any fun entry => entry.2.isNone

/-- How a job has ended, which is how its last process has. -/
def Job.ending (job : Job) : Ending :=
  ((job.processes.getLast?.bind (·.2))).getD (.status 0)

namespace Deed

/-! ### Statuses and complaints -/

/-- Sets the status. -/
def setStatus (status : Nat) : Deed Unit := modify fun s => { s with status }

/-- Writes to a descriptor, and tells whether that went well. -/
def write (descriptor : Nat) (text : Octets) : Deed Bool := do
  return (← Act.write descriptor text).toOption.isSome

/-- Prints something where complaints go. -/
def say (text : Octets) : Deed Unit := do
  let _ ← write 2 text

/-- Prints a line of complaint, with the command that it is about. -/
def complain (text : Octets) : Deed Unit := do
  let s ← get
  let about := if s.about.isEmpty then [] else s.about ++ ": ".toList
  say (s.name ++ ": ".toList ++ Octets.numeral s.line ++ ": ".toList ++ about ++ text ++ ['\n'])

/-- Finds something wrong. -/
def fail {α : Type} (text : Octets) : Deed α := do
  complain text
  setStatus 2
  throw .failing

/-- Sets the status of a command, and prints its output. -/
def answer (status : Nat) (output : Octets) : Deed Unit := do
  setStatus status
  if !(← write 1 output) then
    complain ((← get).about ++ ": I/O error".toList)
    setStatus (status ||| 1)

/-! ### Time -/

/-- Never goes on. -/
def expire {α : Type} : Deed α := do
  Act.sleep none
  throw .exiting

/-- The machine stops the process at arithmetic that makes no sense.  Ignoring that does not
help, and an action for it never gets anywhere. -/
def crash {α : Type} : Deed α := do
  if ((← get).traps.lookup Signal.badArithmetic).any fun action => !action.isEmpty then expire
  else (Act.break_ Signal.badArithmetic : Act α)

/-- The number of commands that a process runs at its full speed. -/
def fastSteps : Nat := 1000000

/-- The nanoseconds that a command takes by itself.  A process that has run very many is
taken to run on, so that its commands take longer and longer parts of the time that is
left. -/
def stepNanos (steps : Nat) : Nat :=
  if steps < fastSteps then 1000 else 100000000

/-- Does some work, which is that of so many commands. -/
def labour (commands : Nat) : Deed Unit := do
  if 0 < commands then
    let s ← get
    set { s with steps := s.steps + commands }
    Act.work (commands * stepNanos s.steps)

/-! ### Variables -/

/-- Gives a value to a variable that may be changed. -/
def assign (name value : Octets) : Deed Unit := do
  let s ← get
  if s.isFixed name then fail (name ++ ": is read only".toList)
  set (s.withValue name value)

/-- Gives a value to a variable that is handed on to programs. -/
def assignExported (name value : Octets) : Deed Unit := do
  assign name value
  modify fun s => s.exporting name

/-! ### Descriptors -/

/-- Lets descriptors stand for handles. -/
def connectAll (descriptors : List (Nat × Nat)) : Deed Unit := do
  modify fun s => { s with descriptors }
  Act.connect descriptors

/-- Lets a descriptor stand for a handle. -/
def connect (descriptor handle : Nat) : Deed Unit := do
  let others := (← get).descriptors.filter fun entry => entry.1 != descriptor
  connectAll ((descriptor, handle) :: others)

/-- Lets a descriptor stand for nothing. -/
def disconnect (descriptor : Nat) : Deed Unit := do
  connectAll ((← get).descriptors.filter fun entry => entry.1 != descriptor)

/-- Does something, and something else behind it in any case. -/
def finally_ {α : Type} (deed : Deed α) (last : Deed Unit) : Deed α := do
  let found ← try deed catch jump =>
    last
    throw jump
  last
  return found

/-! ### Children -/

/-- Starts a child, which knows what the shell knows. -/
def fork (child : State → Process) : Deed Nat := do
  let s ← get
  Act.fork (s.letGo fun _ => child s.forked)

/-- Waits for one of the children to end, and takes down how: its number, unless there is none
or a signal comes between. -/
def reap (patience : Patience) : Deed (Option (Nat × Ending)) := do
  let found? ← Act.wait patience
  match found? with
  | some (process, ending) => modify fun s => s.withEnding process ending
  | none => pure ()
  return found?

/-- Says how a child has ended that is waited for, if that was by a signal. -/
def tellEnding (ending : Ending) : Deed Unit := do
  match ending with
  | .signal number =>
    if number != Signal.interrupt && number != Signal.brokenPipe then
      say (Signal.description number ++ ['\n'])
  | .status _ => return

/-- Waits patiently for children to end, of which some have: how they have ended, in their
order. -/
def await : Nat → List (Nat × Option Ending) → Deed (List Ending)
  | 0, _ => expire
  | fuel + 1, children => do
    match children.mapM (·.2) with
    | some endings => return endings
    | none =>
      match ← reap .patient with
      | none => return children.map fun child => child.2.getD (.status 0)
      | some (process, ending) =>
        if children.any fun child => child.1 = process then tellEnding ending
        await fuel (children.map fun child =>
          if child.1 = process then (process, some ending) else child)

end Deed

end SyscallPolicy.Host.Shell
