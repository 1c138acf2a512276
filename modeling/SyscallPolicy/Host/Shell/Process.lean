import SyscallPolicy.Host.Shell.Builtin

/-!
# Commands about processes

Sending signals, arranging actions for them, and waiting for children.  A job is the children
that were started in the background together.
-/

namespace SyscallPolicy.Host.Shell

namespace State

/-- The job that a text beginning with a percent sign stands for, or what is wrong. -/
def jobNamed (s : State) (text : Octets) : Except Octets Job :=
  let missing : Octets := "No such job: ".toList ++ text
  let current := s.jobs.getLast?.elim (.error "No current job".toList) .ok
  match text.drop 1 with
  | [] => current
  | ['%'] => current
  | ['+'] => current
  | ['-'] => s.jobs.dropLast.getLast?.elim (.error "No previous job".toList) .ok
  | digits =>
    match (Octets.count? digits).bind fun n => s.jobs.find? fun job => job.number = n with
    | some job => .ok job
    | none => .error missing

/-- A job in words: its number, whether it is the current one or the one before, and whether it
still runs, with the number of its first process if that is asked for. -/
def showJob (s : State) (hasNumbers : Bool) (job : Job) : Octets :=
  let isNth (n : Nat) : Bool := (s.jobs.reverse[n]?).any fun other => other.number = job.number
  let sign : Octets := if isNth 0 then ['+'] else if isNth 1 then ['-'] else [' ']
  let front := '[' :: Octets.numeral job.number ++ "] ".toList ++ sign ++ [' ']
  let number : Octets :=
    if hasNumbers then (job.processes.head?.elim [] fun p => Octets.numeral p.1) ++ [' '] else []
  let phase : Octets :=
    if job.isRunning then "Running".toList
    else
      match job.ending with
      | .status 0 => "Done".toList
      | .status n => "Done(".toList ++ Octets.numeral n ++ [')']
      | .signal n => Signal.description n
  let line := front ++ number ++ phase
  let rest := job.processes.drop 1
  let stages : Octets :=
    if hasNumbers then
      rest.flatMap fun p =>
        let shown := List.replicate (front.length) ' ' ++ Octets.numeral p.1 ++ [' ']
        " |\n".toList ++ shown ++ List.replicate (33 - shown.length) ' '
    else rest.flatMap fun _ => " | ".toList
  line ++ List.replicate (max 1 (33 - line.length)) ' ' ++ stages ++ ['\n']

end State

namespace Deed

/-- How `kill` is used. -/
def killUsage {α : Type} : Deed α :=
  fail ("Usage: kill [-s sigspec | -signum | -sigspec] [pid | job]... or\n".toList ++
    "kill -l [exitstatus]".toList)

/-- Sends a signal to the process with a number, and complains if there is none. -/
def signalTo (signal process : Nat) : Deed Unit := do
  if !(← Act.send signal process) then
    complain "No such process\n".toList
    setStatus 1

/-- The process that is named by a number that `kill` sends no signal to: groups of processes
are not known. -/
def noProcess : Nat := 4294967295

/-- The job that a text stands for. -/
def job (text : Octets) : Deed Job := do
  match (← get).jobNamed text with
  | .ok job => return job
  | .error reason => fail reason

/-- The process that a target of `kill` is. -/
def target (text : Octets) : Deed Nat := do
  match text with
  | '%' :: _ =>
    let _ ← job text
    return noProcess
  | '-' :: digits =>
    let _ ← number digits
    return noProcess
  | _ => number text

/-- What the options of `kill` ask for. -/
structure KillOptions where
  number? : Option Nat := none
  isList : Bool := false
  targets : List Octets := []

/-- Reads the options of `kill`; what is wrong with them is an error. -/
def killOptions : Nat → KillOptions → List Octets → Except Octets KillOptions
  | 0, found, targets => .ok { found with targets }
  | fuel + 1, found, args =>
    match args with
    | ['-', '-'] :: targets => .ok { found with targets }
    | ('-' :: 'l' :: []) :: rest => killOptions fuel { found with isList := true } rest
    | ('-' :: 'l' :: letters) :: rest =>
      killOptions fuel { found with isList := true } (('-' :: letters) :: rest)
    | ('-' :: 's' :: letters) :: rest =>
      let (value?, rest) :=
        if letters.isEmpty then (rest.head?, rest.drop 1) else (some letters, rest)
      match value? with
      | none => .error "No arg for -s option".toList
      | some value =>
        match Signal.decode? 1 value with
        | some number => killOptions fuel { found with number? := some number } rest
        | none => .error ("invalid signal number or name: ".toList ++ value)
    | ('-' :: c :: _) :: _ => .error ("Illegal option -".toList ++ [c])
    | targets => .ok { found with targets }

/-- Lists the names of signals, or the one behind a status. -/
def listSignals (targets : List Octets) : Deed Unit := do
  match targets with
  | [] =>
    answer 0 ('0' :: '\n' :: (Signal.names.drop 1).flatMap fun name => name.toList ++ ['\n'])
  | text :: _ =>
    let n ← number text
    let signal := if 128 < n then n - 128 else n
    if 0 < signal ∧ signal < Signal.bound then answer 0 (Signal.name signal ++ ['\n'])
    else fail ("invalid signal number or exit status: ".toList ++ text)

/-- Sends signals, or lists them. -/
def kill : Builtin := fun args => do
  let send (signal : Nat) (targets : List Octets) : Deed Unit := do
    if targets.isEmpty then killUsage
    setStatus 0
    for text in targets do
      signalTo signal (← target text)
  match args with
  | [] => killUsage
  | ('-' :: word) :: rest =>
    match Signal.decode? 1 word with
    | some signal => send signal rest
    | none =>
      match killOptions (2 * args.flatten.length + 2) {} args with
      | .error complaint => fail complaint
      | .ok found =>
        if found.isList then
          if found.number?.isSome && !found.targets.isEmpty then killUsage
          else listSignals found.targets
        else send (found.number?.getD Signal.termination) found.targets
  | _ => send Signal.termination args

/-- Arranges an action for signals, or takes arrangements back.  What was ignored from the
beginning stays so. -/
def arrange (action? : Option Octets) : List Octets → Deed Unit
  | [] => return
  | name :: rest => do
    match Signal.decode? 0 name with
    | none =>
      say ("trap: ".toList ++ name ++ ": bad trap\n".toList)
      setStatus 1
    | some signal =>
      let s ← get
      let others := s.traps.filter fun trap => trap.1 != signal
      let action? := action?.filter fun action => action != ['-']
      set { s with traps := others ++ (action?.map fun action => (signal, action)).toList }
      if signal != 0 && !s.ignored.contains signal then
        Act.arrange signal (match action? with
          | none => .standard
          | some [] => .ignored
          | some _ => .noticed)
      arrange action? rest

/-- Arranges actions for signals, or lists them. -/
def trap : Builtin := fun args => do
  let (_, args) ← options [] args
  let isNumber (text : Octets) : Bool := !text.isEmpty && text.all Char.isDigit
  match args with
  | [] =>
    let s ← get
    let row (signal : Nat) : Octets :=
      ((s.traps.lookup signal).map fun action =>
        "trap -- ".toList ++ inQuotes action ++ ' ' :: Signal.name signal ++ ['\n']).getD []
    answer 0 ((List.range Signal.bound).flatMap row)
  | [name] =>
    setStatus 0
    arrange none [name]
  | action :: names =>
    setStatus 0
    if isNumber action && (Signal.decode? 0 action).isSome then arrange none args
    else arrange (some action) names

/-- Takes notice of the signals that have come and have actions. -/
def notice : Deed Unit := do
  if (← get).hasActions then
    let found ← Act.notice
    modify fun s =>
      let isNew (signal : Nat) : Bool :=
        !s.pending.contains signal && (s.traps.lookup signal).any fun action => !action.isEmpty
      { s with pending := s.pending ++ found.filter isNew }

/-- Waits until the jobs are of some kind, unless a signal comes between: whether none did. -/
def waitUntil (isOver : State → Bool) (told : List Nat) : Nat → Deed Bool
  | 0 => expire
  | fuel + 1 => do
    let s ← get
    if isOver s then return true
    else
      match ← reap .hasty with
      | some (process, ending) =>
        if told.contains process then tellEnding ending
        waitUntil isOver told fuel
      | none =>
        notice
        match (← get).pending.getLast? with
        | some signal =>
          setStatus (128 + signal)
          return false
        | none =>
          modify fun s =>
            { s with jobs := s.jobs.map fun job =>
                { job with processes := job.processes.map fun (number, state?) =>
                    (number, some (state?.getD (.status 127))) } }
          waitUntil isOver told fuel

/-- Waits for a job: whether no signal came between. -/
def waitFor (job : Job) : Deed Bool := do
  let now? (s : State) : Option Job := s.jobs.find? fun other => other.number = job.number
  let isDone ← waitUntil (fun s => (now? s).all fun job => !job.isRunning)
    (job.processes.map (·.1)) greatestLength
  if isDone then
    modify fun s =>
      { s with
        status := State.statusOf ((now? s).getD job).ending
        jobs := s.jobs.map fun other =>
          if other.number = job.number then { other with isReaped := true } else other }
  return isDone

/-- Waits for each of the children that texts stand for. -/
def waitEach : List Octets → Deed Unit
  | [] => return
  | text :: rest => do
    let job? ← match text with
      | '%' :: _ => some <$> job text
      | _ =>
        let process ← number text
        let isLast (job : Job) : Bool := (job.processes.getLast?).any fun p => p.1 = process
        pure ((← get).jobs.reverse.find? isLast)
    match job? with
    | none =>
      waitEach rest
    | some job =>
      if ← waitFor job then waitEach rest

/-- Waits for children in the background. -/
def wait : Builtin := fun args => do
  let (_, args) ← options [] args
  if args.isEmpty then
    setStatus 0
    if ← waitUntil (fun s => s.jobs.all fun job => !job.isRunning) [] greatestLength then
      modify fun s => { s with jobs := s.jobs.map fun job => { job with isReaped := true } }
  else
    setStatus 127
    waitEach args

/-- Takes down how children in the background have ended by now. -/
def lookAfter : Nat → Deed Unit
  | 0 => return
  | fuel + 1 => do
    if (← reap .none).isSome then lookAfter fuel

/-- Lists jobs; those that have ended are forgotten with that. -/
def listJobs : Builtin := fun args => do
  let (options, names) ← options ['l', 'p'] args
  setStatus 0
  lookAfter greatestLength
  let jobs ← if names.isEmpty then pure (← get).jobs.reverse else names.mapM job
  for job in jobs do
    let s ← get
    let shown :=
      if options.getLast? = some 'p' then
        (job.processes.head?.elim [] fun p => Octets.numeral p.1) ++ ['\n']
      else s.showJob (options.getLast? = some 'l') job
    if !job.isRunning && options.getLast? != some 'p' then
      set { s with jobs := s.jobs.filter fun other => other.number != job.number }
    answer 0 shown

/-- Goes on with a child in the foreground or the background, which needs a terminal. -/
def resume : Builtin := fun args => do
  let (_, names) ← options [] args
  for name in if names.isEmpty then [['%']] else names do
    let _ ← job name
    let shown := if names.isEmpty then "(null)".toList else name
    fail ("job ".toList ++ shown ++ " not created under job control".toList)

end Deed

end SyscallPolicy.Host.Shell
