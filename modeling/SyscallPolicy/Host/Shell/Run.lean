import SyscallPolicy.Host.Shell.Process
import SyscallPolicy.Host.Shell.Expand
import SyscallPolicy.Host.Shell.Reader

/-!
# Running texts

What it means to run a text in a process, given a way to run the scripts that are read from
it: line by line, since a line can change how the next ones are read.  The actions that are
arranged for signals and for the end of a process are such texts, and a command
substitution is a script that is run to its end in a child.
-/

namespace SyscallPolicy.Host.Shell.Deed

/-! ### Texts -/

/-- Runs a line, which may be wrong. -/
def runLine (run : Run) (mode : Mode) : Line → Deed Unit
  | .nothing => return
  | .broken line reason => do
    modify fun s => { s with line }
    fail ("Syntax error: ".toList ++ reason.toList)
  | .commands script isLast rest => do
    modify fun s => { s with lineRead := rest.line }
    run { mode with isLast := mode.isLast && isLast } script

/-- Runs the lines of a text one after the other, and tells whether there was something in
them. -/
def runLines (run : Run) (mode : Mode) : Nat → (isEmpty : Bool) → Source → Deed Bool
  | 0, _, _ => expire
  | fuel + 1, isEmpty, source => do
    let (line, _) := nextLine (← get).aliases source
    runLine run mode line
    match line with
    | .commands script isLast rest =>
      let isEmpty := isEmpty && script.isSkip
      if isLast then return !isEmpty else runLines run mode fuel isEmpty rest
    | _ => return !isEmpty

/-- Runs the lines of a text one after the other. -/
def runText (run : Run) (mode : Mode) (text : Octets) : Deed Unit := do
  let _ ← runLines run mode greatestLength true (.ofText text)

/-- Runs a text as one command, which is a success if there is nothing in it. -/
def runWhole (run : Run) (mode : Mode) (text : Octets) : Deed Unit := do
  if !(← runLines run mode greatestLength true (.ofText text)) then setStatus 0

/-- How much of a script is read at once. -/
def portion : Nat := 8192

/-- Runs the lines that can be read from a descriptor, where no more is read than there is to
read before a line can be run.  Tells whether there was something in them. -/
def runInput (run : Run) (descriptor : Nat) :
    Nat → (isEmpty isEnded : Bool) → Source → Deed Bool
  | 0, _, _, _ => expire
  | fuel + 1, isEmpty, isEnded, source => do
    let (line, sawEnd) := nextLine (← get).aliases source
    if sawEnd && !isEnded then
      match ← Act.read descriptor portion true with
      | .ok text =>
        let source :=
          { source with rest := source.rest ++ text, size := source.size + text.length }
        runInput run descriptor fuel isEmpty text.isEmpty source
      | .error _ => runInput run descriptor fuel isEmpty true source
    else
      runLine run {} line
      match line with
      | .commands script isLast rest =>
        let isEmpty := isEmpty && script.isSkip
        if isLast then return !isEmpty else runInput run descriptor fuel isEmpty isEnded rest
      | _ => return !isEmpty

/-- Runs what can be read from a descriptor as one command; returning only ends that. -/
def runFile (run : Run) (descriptor : Nat) : Deed Unit := do
  try
    if !(← runInput run descriptor greatestLength true false (.ofText [])) then setStatus 0
  catch jump =>
    if jump != .returning then throw jump

/-! ### Actions -/

/-- Runs the actions of the signals that have come. -/
def runActions (run : Run) : Nat → Deed Unit
  | 0 => return
  | fuel + 1 => do
    notice
    let s ← get
    match s.pending.min? with
    | none => return
    | some signal =>
      set { s with
        pending := s.pending.filter (· != signal), saved := some (s.saved.getD s.status) }
      try runText run {} ((s.traps.lookup signal).getD [])
      catch jump =>
        modify fun after => { after with saved := s.saved }
        if !jump.isRaised && jump != .returning then setStatus s.status
        throw jump
      modify fun after => { after with saved := s.saved, status := s.status }
      runActions run fuel

/-- Does something up to the end of the process, behind the action that is arranged for that:
its status. -/
def conclude (run : Run) (deed : Deed Unit) (s : State) : Act Nat := do
  let (_, s) ← deed.run.run s
  match s.traps.lookup 0 with
  | none => return s.status
  | some action =>
    let (outcome, after) ← (runText run {} action).run.run
      { s with traps := s.traps.filter fun trap => trap.1 != 0, saved := some s.status }
    match outcome with
    | .error jump => return if jump.isRaised then after.status else s.status
    | .ok () => return s.status

/-- The process in which a shell does something up to its end. -/
def process (run : Run) (deed : Deed Unit) (s : State) : Process :=
  conclude run deed s .ends

/-! ### Children -/

/-- Descriptors that stand for nothing, from this one on. -/
def spare : Deed Nat := do
  return ((← get).descriptors.map (·.1)).foldl max 9 + 1

/-- Makes room for a child that is waited for. -/
def makeRoom : Deed Unit := modify fun s => s.withoutNextJob

/-- What a script prints when it is run in a child, and in what others in the background
print before they let go of it. -/
def substitution (run : Run) : Substitute := fun body => do
  makeRoom
  let kept := (← get).descriptors
  let descriptor ← spare
  let (source, sink) ← Act.pipe
  connectAll ((descriptor, source) :: (descriptor + 1, sink) :: kept)
  let child ← fork (process run do
    connectAll ((1, sink) :: kept.filter fun entry => entry.1 != 1)
    run { isLast := true } body)
  connectAll ((descriptor, source) :: kept)
  let (output, _) ← Utility.Call.readAll descriptor portion
  connectAll kept
  let endings ← await greatestLength [(child, none)]
  modify fun s => { s with substituted := State.statusOf (endings.headD (.status 0)) }
  return output

end SyscallPolicy.Host.Shell.Deed
