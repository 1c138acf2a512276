import SyscallPolicy.Host.Shell.Command

/-!
# Running scripts

What a script does to the process it is run in.  Each kind of command is a function that
asks another one to run the scripts inside of it; the last definition ties the knot, with
a bound on how deep scripts can stand in each other.

Where nothing comes behind a command, the process is given to the program that the
command starts, so that a signal to that program ends the process itself.
-/

namespace SyscallPolicy.Host.Shell

namespace Deed

/-! ### Pipes -/

/-- Starts the stages of a pipe, the first of which reads what a handle stands for, and gives
the numbers of their processes.  What a child does beforehand is given, too. -/
def startStages (run : Run) (mode : Mode) (before : Bool → Deed Unit) :
    Option Nat → List Script → Deed (List Nat)
  | _, [] => return []
  | source?, body :: rest => do
    let kept := (← get).descriptors
    let free ← spare
    let from_ : List (Nat × Nat) := (source?.map fun source => (free, source)).toList
    let others (descriptor : Nat) (entries : List (Nat × Nat)) : List (Nat × Nat) :=
      entries.filter fun entry => entry.1 != descriptor
    let input (entries : List (Nat × Nat)) : List (Nat × Nat) :=
      source?.elim entries fun source => (0, source) :: others 0 entries
    let start (descriptors : List (Nat × Nat)) : Deed Nat :=
      fork (process run do
        before source?.isNone
        let entries := (← get).descriptors.filter fun entry => entry.1 < free
        connectAll (descriptors.foldl (fun entries entry => entry :: others entry.1 entries)
          (input entries))
        run { isTested := mode.isTested, isLast := true } body)
    if rest.isEmpty then
      let child ← start []
      connectAll kept
      return [child]
    else
      let (source, sink) ← Act.pipe
      Act.connect (from_ ++ (free + 1, source) :: (free + 2, sink) :: kept)
      let child ← start [(1, sink)]
      Act.connect ((free, source) :: kept)
      return child :: (← startStages run mode before (some source) rest)

/-- Runs a pipe. -/
def runPipe (run : Run) (mode : Mode) (stages : List Script) : Deed Unit := do
  makeRoom
  let children ← startStages run mode (fun _ => return) none stages
  let endings ← await greatestLength (children.map fun child => (child, none))
  setStatus (State.statusOf (endings.getLast?.getD (.status 0)))

/-! ### Loops and selections -/

/-- How a part of a loop has gone. -/
inductive Round where
  /-- To its end. -/
  | whole
  /-- Up to where the next round was asked for. -/
  | cut
  /-- Up to where the end of the loop was asked for. -/
  | last
  deriving DecidableEq

/-- Runs a part of a loop. -/
def part (deed : Deed Unit) : Deed Round := do
  try
    deed
    return .whole
  catch
    | .breaking loops => if loops ≤ 1 then return .last else throw (.breaking (loops - 1))
    | .continuing loops => if loops ≤ 1 then return .cut else throw (.continuing (loops - 1))
    | jump => throw jump

/-- Runs rounds as long as a condition holds, given the status of the last round. -/
def runRounds (run : Run) (mode : Mode) (untilTrue : Bool) (condition body : Script) :
    Nat → Nat → Deed Unit
  | 0, _ => expire
  | fuel + 1, status => do
    match ← part (run { isTested := true } condition) with
    | .last => setStatus status
    | .cut => runRounds run mode untilTrue condition body fuel status
    | .whole =>
      if ((← get).status == 0) == untilTrue then setStatus status
      else
        let round ← part (run { isTested := mode.isTested } body)
        if round = .last then return
        else runRounds run mode untilTrue condition body fuel (← get).status

/-- Runs a round for each of some values of a variable. -/
def runEach (run : Run) (mode : Mode) (name : Octets) (body : Script) :
    List Octets → Deed Unit
  | [] => return
  | value :: rest => do
    assign name value
    let round ← part (run { isTested := mode.isTested } body)
    if round = .last then return else runEach run mode name body rest

/-- Runs a loop inside of the loops that are around. -/
def inLoop (loop : Deed Unit) : Deed Unit := do
  let loops := (← get).loops
  modify fun s => { s with loops := loops + 1 }
  finally_ loop (modify fun s => { s with loops })

/-- Runs the first branch of which a pattern fits a text. -/
def runBranches (run : Run) (mode : Mode) (subject : Octets) :
    List (List Word × Script) → Deed Unit
  | [] => setStatus 0
  | ([], _) :: rest => runBranches run mode subject rest
  | (pattern :: patterns, body) :: rest => do
    if Glob.fits (Glob.read (← marked (substitution run) pattern)) subject then
      if body.isSkip then setStatus 0 else run mode body
    else runBranches run mode subject ((patterns, body) :: rest)
  termination_by branches => (branches.length, (branches.head?.map (·.1.length)).getD 0)

/-! ### Children -/

/-- Runs a script with redirections whose words are expanded, which last as long as the
process. -/
def runLast (run : Run) (isTested : Bool) (body : Script) (found : List (Nat × Target)) :
    Deed Unit := do
  if ← redirectAll run found then run { isTested, isLast := true } body
  else
    setStatus 2
    throw .failing

/-- Runs a script in a child of its own, unless nothing comes behind it. -/
def runSubshell (run : Run) (mode : Mode) (body : Script) (redirections : List Redirection) :
    Deed Unit := do
  let found ← targets run redirections
  if mode.isLast && !(← get).hasActions then runLast run mode.isTested body found
  else
    makeRoom
    let child ← fork (process run (runLast run mode.isTested body found))
    let endings ← await greatestLength [(child, none)]
    setStatus (State.statusOf (endings.headD (.status 0)))

/-- What a child in the background does first: it is not ended from the keyboard, and has
nothing to read if it reads no pipe. -/
def goBehind (isFirst : Bool) : Deed Unit := do
  for signal in [2, 3] do
    Act.arrange signal .ignored
  modify fun s => { s with ignored := 2 :: 3 :: s.ignored }
  if isFirst then
    match ← Act.open_ [] "/dev/null" .read with
    | .ok handle => connect 0 handle
    | .error _ => return

/-- Takes down a job whose children were started. -/
def addJob (children : List Nat) : Deed Unit := do
  labour (← get).jobs.length
  modify fun s =>
    let job : Job :=
      { number := s.nextJob, processes := children.map fun child => (child, none) }
    { s.withoutNextJob with
      jobs := s.withoutNextJob.jobs ++ [job], lastJob := children.getLast?, status := 0 }

/-- Runs a script in the background.  The stages of a pipe are children themselves, and the
words of redirections are expanded beforehand. -/
def runBackground (run : Run) (body : Script) : Deed Unit := do
  let start (body : Script) (found : List (Nat × Target)) : Deed Unit := do
    addJob [← fork (process run do
      goBehind true
      runLast run false body found)]
  match body with
  | .pipe stages => addJob (← startStages run {} goBehind none stages)
  | .redirected _ body redirections => start body (← targets run redirections)
  | body => start body []

/-! ### All commands -/

/-- Runs a script, given a way to run those inside of it. -/
def perform (run : Run) (mode : Mode) (script : Script) : Deed Unit := do
  let tested : Mode := { isTested := true }
  let inner : Mode := { isTested := mode.isTested }
  let at_ (line : Nat) : Deed Unit := modify fun s => { s with line }
  let status : Deed Nat := do return (← get).status
  match script with
  | .skip => return
  | .simple line assignments words redirections =>
    at_ line
    runSimple run mode assignments words redirections
  | .redirected line body redirections =>
    at_ line
    redirecting run redirections fun isOpen _ =>
      if isOpen then run inner body else setStatus 2
  | .pipe stages => runPipe run mode stages
  | .negate body =>
    run tested body
    setStatus (if (← status) = 0 then 1 else 0)
  | .both left right =>
    run tested left
    if (← status) = 0 then run mode right
  | .either left right =>
    run tested left
    if (← status) != 0 then run mode right
  | .sequence left right =>
    run inner left
    run mode right
  | .background body => runBackground run body
  | .subshell line body redirections =>
    at_ line
    runSubshell run mode body redirections
  | .choose condition yes no =>
    run tested condition
    if (← status) = 0 then run mode yes
    else if no.isSkip then setStatus 0
    else run mode no
  | .loop untilTrue condition body =>
    inLoop (runRounds run mode untilTrue condition body greatestLength 0)
  | .each line name items body =>
    at_ line
    let values ← allFields (substitution run) items
    if values.isEmpty then setStatus 0
    else inLoop (runEach run mode name body values)
  | .select line subject branches =>
    at_ line
    let subject ← text (substitution run) subject
    runBranches run mode subject (branches.map fun | .mk patterns body => (patterns, body))
  | .define name body =>
    modify fun s =>
      { s with functions := (name, body) :: s.functions.filter fun f => f.1 != name, status := 0 }

end Deed

/-- Whether the status of a script counts where errors end the shell. -/
def Script.isChecked : Script → Bool
  | simple .. => true
  | redirected .. => true
  | subshell .. => true
  | background _ => true
  | pipe _ => true
  | _ => false

/-- Runs a script between the actions of signals, and ends the process if its status asks for
that. -/
def step (run : Run) (mode : Mode) (script : Script) : Deed Unit := do
  if (← get).has 'n' then return
  Deed.runActions run greatestLength
  if !script.isSkip then Deed.labour 1
  Deed.perform run mode script
  Deed.runActions run greatestLength
  let s ← get
  if script.isChecked && s.has 'e' && !mode.isTested && s.status != 0 then throw .exiting

/-- Runs scripts that stand in each other up to a depth; the process breaks down behind it. -/
def execute : Nat → Run
  | 0 => fun _ _ => (Act.break_ 11 : Act Unit)
  | depth + 1 => step (execute depth)

/-- The process in which a program runs, begun with what a shell knows. -/
def programProcess (program : Program) (name : Octets) (args : List Octets) (s : State) :
    Process :=
  Deed.process (execute greatestDepth)
    (Deed.launch (execute greatestDepth) launchDepth program name args) s

end SyscallPolicy.Host.Shell
