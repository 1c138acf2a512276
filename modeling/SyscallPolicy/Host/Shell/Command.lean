import SyscallPolicy.Host.Shell.Launch

/-!
# Simple commands

A simple command is expanded word by word, so that what it is can decide how the words
behind its name are read.  Then its redirections and its assignments are made, and it is
carried out: by the shell, as a function, or as a program in a child.

An error in a special command ends the script.  In any other command of the shell it only
makes a status, unless it is in the words, the redirections or the assignments.
-/

namespace SyscallPolicy.Host.Shell

/-- The commands that a shell carries out itself and that run no scripts. -/
def builtins : List (String × Builtin) :=
  [(":", fun _ => Deed.setStatus 0), ("true", fun _ => Deed.setStatus 0),
   ("false", fun _ => Deed.setStatus 1), ("exit", Deed.exit), ("return", Deed.return_),
   ("break", Deed.leaving .breaking), ("continue", Deed.leaving .continuing),
   ("set", Deed.set_), ("shift", Deed.shift), ("export", Deed.export_),
   ("readonly", Deed.readonly_), ("local", Deed.local_), ("unset", Deed.unset),
   ("trap", Deed.trap), ("kill", Deed.kill), ("wait", Deed.wait),
   ("jobs", Deed.listJobs), ("fg", Deed.resume), ("bg", Deed.resume),
   ("cd", Deed.changeDirectory), ("chdir", Deed.changeDirectory),
   ("pwd", Deed.printDirectory), ("umask", Deed.mask_), ("read", Deed.read),
   ("getopts", Deed.nextOption), ("alias", Deed.alias_), ("unalias", Deed.unalias),
   ("echo", Deed.echo), ("printf", Deed.utility Utility.print "printf"),
   ("test", Deed.utility Utility.test "test"), ("[", Deed.utility Utility.bracket "["),
   ("times", fun _ =>
     Deed.answer 0 "0m0.000000s 0m0.000000s\n0m0.000000s 0m0.000000s\n".toList),
   ("ulimit", Deed.limit)]

/-- The commands that a shell carries out itself and that run scripts or look at commands. -/
def runners : List String := [".", "command", "eval", "exec", "hash", "type"]

/-- Whether a shell carries out a command itself. -/
def isBuiltin (name : Octets) : Bool :=
  let name := String.ofList name
  (builtins.lookup name).isSome || runners.contains name

/-- Whether an error in a command ends the script. -/
def isSpecialCommand (name : Octets) : Bool :=
  specialCommands.contains (String.ofList name)

/-- Whether a command declares variables, so that its arguments are read like assignments. -/
def isDeclaring (name : Octets) : Bool :=
  ["export", "readonly", "local", "alias"].contains (String.ofList name)

/-! ### Words -/

/-- A command whose words are being expanded. -/
structure Request where
  /-- The fields that are there, from the name of the command on. -/
  fields : List Octets := []
  /-- The words that are still to come. -/
  words : List Word
  /-- Whether functions are passed over. -/
  isPlain : Bool := false
  /-- Whether programs are looked for where they are found in any case. -/
  isStandard : Bool := false
  /-- Whether an error in it ends the script, once that is known. -/
  isSpecial? : Option Bool := none

namespace Request

open Deed

/-- Expands words until there is a field, given fields and words. -/
def pullFrom (run : Run) (r : Request) : List Octets → List Word → Deed Request
  | [], word :: words => do pullFrom run r (← Deed.fields (substitution run) word) words
  | fields, words => return { r with fields, words }

/-- Expands words until there is a field. -/
def pull (run : Run) (r : Request) : Deed Request := r.pullFrom run r.fields r.words

/-- The command behind `command` and its options, unless these ask for something else. -/
def behindCommand (run : Run) : Nat → Request → Deed (Option Request)
  | 0, _ => return none
  | fuel + 1, r => do
    let r ← r.pull run
    match r.fields with
    | [] => return none
    | ['-', '-'] :: rest =>
      let r ← { r with fields := rest }.pull run
      return if r.fields.isEmpty then none else some r
    | ('-' :: c :: letters) :: rest =>
      if (c :: letters).all (· == 'p') then
        behindCommand run fuel { r with fields := rest, isStandard := true }
      else return none
    | _ => return some r

/-- Expands a word of a command that declares variables. -/
def declared (run : Run) (word : Word) : Deed (List Octets) := do
  match assignment? word with
  | some (name, value) => return [name ++ '=' :: (← assigned (substitution run) value)]
  | none => Deed.fields (substitution run) word

/-- Expands the words that are left. -/
def finish (run : Run) (declares : Bool) (r : Request) : Deed Request := do
  let found ← r.words.mapM fun word =>
    if declares then declared run word else Deed.fields (substitution run) word
  return { r with fields := r.fields ++ found.flatten, words := [] }

/-- Expands words up to the command that they are about. -/
def expand (run : Run) : Nat → Request → Deed Request
  | 0, _ => expire
  | fuel + 1, r => do
    let r ← r.pull run
    match r.fields with
    | [] => return r
    | name :: rest =>
      let isFunction := !r.isPlain && ((← get).functions.lookup name).isSome
      if !isBuiltin name || (isFunction && !isSpecialCommand name) then r.finish run false
      else
        let r := { r with isSpecial? := some (r.isSpecial?.getD (isSpecialCommand name)) }
        let behind? ←
          if name = "command".toList then
            behindCommand run greatestLength { r with fields := rest }
          else pure none
        match behind? with
        | some behind => expand run fuel { behind with isPlain := true }
        | none => r.finish run (isDeclaring name)

end Request

namespace Deed

/-! ### Looking at commands -/

/-- The paths under which a program is looked for. -/
def candidates (name : Octets) : Deed (List Octets) := do
  return (← get).directories.map fun directory =>
    if directory = "" then name else Octets.ofString directory ++ '/' :: name

/-- Where a command without a slash is found among programs. -/
def programPath? (name : Octets) : Deed (Option Octets) := do
  let trail := (← Act.look).trail
  let here := (← get).here
  return (← candidates name).find? fun path =>
    match trail.find here (Octets.toText path) with
    | .ok found => (found.node matches .program _)
    | .error _ => false

/-- What a command is, in words or as it could be called. -/
def describe (isVerbose : Bool) (name : Octets) : Deed (Option Octets) := do
  let s ← get
  let said (words : String) : Octets := if isVerbose then name ++ words.toList else name
  if reserved.contains (String.ofList name) then return some (said " is a shell keyword")
  else
    match s.aliases.lookup name with
    | some value =>
      return some (if isVerbose then name ++ " is an alias for ".toList ++ value
        else "alias ".toList ++ name ++ '=' :: inQuotes value)
    | none =>
      if isSpecialCommand name then return some (said " is a special shell builtin")
      else if (s.functions.lookup name).isSome then return some (said " is a shell function")
      else if isBuiltin name then return some (said " is a shell builtin")
      else if name.contains '/' then
        match ← find name with
        | .ok _ => return some (if isVerbose then name ++ " is ".toList ++ name else name)
        | .error _ => return none
      else
        return (← programPath? name).map fun path =>
          if isVerbose then name ++ " is ".toList ++ path else path

/-- Describes commands; one that cannot be found makes a status. -/
def describeAll (isVerbose : Bool) (names : List Octets) : Deed Unit := do
  let found ← names.mapM fun name => do return (name, ← describe isVerbose name)
  let row (entry : Octets × Option Octets) : Octets :=
    match entry.2 with
    | some text => text ++ ['\n']
    | none => if isVerbose then entry.1 ++ ": not found\n".toList else []
  answer (if found.all fun entry => entry.2.isSome then 0 else 127) (found.flatMap row)

/-- Describes the command behind options. -/
def command : Builtin := fun args => do
  let (options, names) ← options ['p', 'v', 'V'] args
  if options.contains 'v' || options.contains 'V' then
    describeAll (options.contains 'V') (names.take 1)
  else setStatus 0

/-- Looks for programs in advance. -/
def hash : Builtin := fun args => do
  let (_, names) ← options ['r'] args
  setStatus 0
  for name in names do
    if (← describe false name).isNone then
      notFound name 127
      setStatus 1

/-! ### Carrying out commands -/

/-- The file of commands that a name stands for. -/
def includedPath (name : Octets) : Deed (Option Octets) := do
  if name.contains '/' then return some name
  else
    let trail := (← Act.look).trail
    let here := (← get).here
    return (← candidates name).find? fun path =>
      match trail.find here (Octets.toText path) with
      | .ok found => !Trail.isDirectory found.node
      | .error _ => false

/-- Runs the commands in a file, in the same shell. -/
def include_ (run : Run) : Builtin := fun args => do
  let (_, args) ← options [] args
  match args with
  | [] => setStatus 0
  | name :: _ =>
    match ← includedPath name with
    | none => fail (name ++ ": not found".toList)
    | some path =>
      match ← open_ .read path with
      | .error failure => fail (openingComplaint .read path failure)
      | .ok handle =>
        let descriptor ← spare
        connect descriptor handle
        finally_ (runFile run descriptor) (disconnect descriptor)

/-- Gives the process to a program, for good. -/
def become (run : Run) (name : Octets) (args : List Octets) : Deed Unit := do
  match ← program (← get).directories name with
  | .ok found => launch run launchDepth found name args
  | .error failure =>
    notFound name (missingStatus failure)
    throw .exiting

/-- Carries out a command that runs scripts or looks at commands. -/
def runRunner (run : Run) (mode : Mode) (name : String) (args : List Octets) : Deed Unit :=
  match name, args with
  | ".", args => include_ run args
  | "eval", args => runWhole run { isTested := mode.isTested } (Octets.join [' '] args)
  | "exec", [] => setStatus 0
  | "exec", name :: args => become run name args
  | "hash", args => hash args
  | "type", args => describeAll true args
  | _, args => command args

/-- Carries out a command of the shell.  An error in it is caught if it is not special. -/
def runBuiltin (run : Run) (mode : Mode) (isSpecial : Bool) (name : Octets)
    (args : List Octets) : Deed Unit := do
  let s ← get
  set { s with about := name }
  let name := String.ofList name
  try
    match builtins.lookup name with
    | some builtin => builtin args
    | none => runRunner run mode name args
  catch jump =>
    modify fun after => { after with about := s.about }
    if jump != .failing || isSpecial then throw jump
  modify fun after => { after with about := s.about }

/-- The greatest number of functions that can be around. -/
def greatestCalls : Nat := 1000

/-- Calls a function. -/
def callFunction (run : Run) (mode : Mode) (body : Script) (args : List Octets) :
    Deed Unit := do
  let s ← get
  if greatestCalls ≤ s.calls then
    fail "Maximum function recursion depth (1000) reached".toList
  set { s with parameters := args, loops := 0, calls := s.calls + 1, argument := 1, letter := 0 }
  let goBack : Deed Unit := modify fun after =>
    { after with
      parameters := s.parameters, loops := s.loops, calls := s.calls
      argument := s.argument, letter := s.letter }
  try run { isTested := mode.isTested } body
  catch jump =>
    if !jump.isRaised then goBack
    if jump != .returning then throw jump
  goBack

/-- Runs a program, in a child unless nothing comes behind it. -/
def runProgram (run : Run) (mode : Mode) (isStandard : Bool) (name : Octets)
    (args : List Octets) : Deed Unit := do
  let s ← get
  match ← program (if isStandard then searchPath else s.directories) name with
  | .error failure => notFound name (if name.contains '/' then missingStatus failure else 127)
  | .ok found =>
    if mode.isLast && !s.hasActions then launch run launchDepth found name args
    else
      makeRoom
      let child ← fork (process run (launch run launchDepth found name args))
      let endings ← await greatestLength [(child, none)]
      setStatus (State.statusOf (endings.headD (.status 0)))

/-- Makes the assignments of a command, in its own frame or for good. -/
def assignAll (run : Run) (isOwn isExported : Bool) : List (Octets × Word) → Deed Unit
  | [] => return
  | (name, value) :: rest => do
    let value ← assigned (substitution run) value
    if isOwn then modify fun s => s.remember name
    assign name value
    if isOwn || isExported then modify fun s => s.exporting name
    assignAll run isOwn isExported rest

/-- Prints a command that is about to be carried out. -/
def trace (descriptor : Nat) (assignments : List (Octets × Word)) (fields : List Octets) :
    Deed Unit := do
  let s ← get
  if s.has 'x' then
    let set := assignments.map fun (name, _) => name ++ '=' :: (s.valueOf? name).getD []
    let front := (s.valueOf? "PS4".toList).getD []
    let _ ← write descriptor (front ++ Octets.join [' '] (set ++ fields) ++ ['\n'])

/-- Carries out a command, given its fields. -/
def carryOut (run : Run) (mode : Mode) (r : Request) : Deed Unit := do
  let s ← get
  match r.fields with
  | [] => setStatus s.substituted
  | name :: args =>
    match if r.isPlain || isSpecialCommand name then none else s.functions.lookup name with
    | some body => callFunction run mode body args
    | none =>
      if isBuiltin name then runBuiltin run mode (r.isSpecial?.getD false) name args
      else runProgram run mode r.isStandard name args

/-- Runs a simple command. -/
def runSimple (run : Run) (mode : Mode) (assignments : List (Octets × Word))
    (words : List Word) (redirections : List Redirection) : Deed Unit := do
  modify fun s => { s with substituted := 0 }
  let r ← Request.expand run greatestLength { words }
  let isSpecial := r.isSpecial?.getD false
  let isOwn := !r.fields.isEmpty && !isSpecial
  let becomes := r.fields.head? == some "exec".toList
  let frames := (← get).frames.length
  let carried (isOpen : Bool) (complaints : Nat) : Deed Unit := do
    if !isOpen then
      setStatus 2
      if isSpecial then throw .failing
    else
      if isOwn then modify State.enter
      assignAll run isOwn (becomes && r.fields.length > 1) assignments
      trace complaints assignments r.fields
      carryOut run mode r
  try
    if becomes then
      let found ← targets run redirections
      carried (← redirectAll run found) 2
    else redirecting run redirections carried
  catch jump =>
    if !jump.isRaised then modify fun s => s.leaveTo frames
    throw jump
  modify fun s => s.leaveTo frames

end Deed

end SyscallPolicy.Host.Shell
