import SyscallPolicy.Host.Shell.Redirect
import SyscallPolicy.Host.Utility.Run

/-!
# Programs in processes

A process is given to a program: a utility runs to its end in it, and a shell begins anew
with what is handed on to programs.  A program takes no notice of signals, but what is ignored
stays so.
-/

namespace SyscallPolicy.Host.Shell

/-- The nanoseconds that it takes to start a program. -/
def launchNanos : Nat := 1000000

/-- What a new shell knows, which is only what is handed on to programs. -/
def State.renewed (s : State) (view : View) (name : Octets) : State :=
  let handedOn := s.environment.map fun (name, value) =>
    (name, { value? := some value, isExported := true : Binding })
  let silenced := (s.traps.filter fun trap => trap.2.isEmpty).map (·.1)
  let fresh : State :=
    { main := view.self, here := s.here, hereName := pathOf s.here, descriptors := s.descriptors
      ignored := s.ignored ++ silenced, mask := s.mask, limits := s.limits
      name, line := 0, bindings := handedOn.filter fun b => isName b.1 }
  let own : List (String × Octets) :=
    [("IFS", [' ', '\t', '\n']), ("OPTIND", ['1']), ("PWD", pathOf s.here),
     ("PPID", Octets.numeral view.parent), ("PS1", ['#', ' ']), ("PS2", ['>', ' ']),
     ("PS4", ['+', ' '])]
  let fresh := own.foldl (fun s (name, value) => s.withValue name.toList value) fresh
  if (fresh.valueOf? "PATH".toList).isSome then fresh
  else fresh.withValue "PATH".toList (Octets.join [':'] (searchPath.map String.toList))

/-- Whether an argument of `env` sets a variable. -/
def isSetting (arg : Octets) : Bool := arg.contains '=' && arg.head? != some '='

/-- The greatest number of programs that start each other in one process. -/
def launchDepth : Nat := 1000

namespace Deed

/-- Runs a shell that is called with these arguments. -/
def runShell (run : Run) (args : List Octets) : Deed Unit := do
  let found ← readOptions true (args.length + 1) { left := args }
  let fromInput : Deed Unit := do
    modify fun s => s.withOption true 's'
    runFile run 0
  if found.hasCommand then
    match found.left with
    | [] => fail "-c requires an argument".toList
    | text :: rest =>
      modify fun s => { s with name := rest.headD s.name, parameters := rest.drop 1 }
      runText run {} text
      if (← get).has 's' then fromInput
  else if found.left.isEmpty || (← get).has 's' then
    modify fun s => { s with parameters := found.left }
    fromInput
  else
    let path := found.left.headD []
    match ← open_ .read path with
    | .ok handle =>
      modify fun s => { s with name := path, parameters := found.left.drop 1 }
      let descriptor ← spare
      connect descriptor handle
      runFile run descriptor
    | .error failure => fail (openingComplaint .read path failure)

/-- Lets go of what is not handed on to programs: spare descriptors and actions. -/
def letGo : Deed Unit := do
  let s ← get
  connectAll (s.descriptors.filter fun entry => entry.1 < 10)
  s.letGo

/-- The program that a name stands for. -/
def program (directories : List String) (name : Octets) : Deed (Except FileFailure Program) := do
  return (← Act.look).trail.findProgram (← get).here directories (Octets.toText name)

/-- Gives the process to a program, for good. -/
def launch (run : Run) : Nat → Program → Octets → List Octets → Deed Unit
  | 0, _, _, _ => expire
  | fuel + 1, found, name, args => do
    let utility (name : Octets) (args : List Octets) : Deed Unit := do
      Act.work launchNanos
      let s ← get
      let view ← Act.look
      let status ← Utility.run
        { name, args, here := s.here, table := s.descriptors, view, environment := s.environment }
        found
      (Act.exit status : Act Unit)
    letGo
    match found with
    | .shell =>
      Act.work launchNanos
      let s := (← get).renewed (← Act.look) name
      let status ← conclude run (runShell run args) s
      (Act.exit status : Act Unit)
    | .environment =>
      let isBare := args.head? == some ['-', 'i'] || args.head? == some ['-']
      let args := args.dropWhile fun arg => arg == ['-', 'i'] || arg == ['-', '-'] || arg == ['-']
      if isBare then modify fun s => { s with bindings := [] }
      for arg in args.takeWhile isSetting do
        let name := arg.takeWhile (· != '=')
        modify fun s => s.rebind name
          (some { value? := some (arg.drop (name.length + 1)), isExported := true })
      match args.dropWhile isSetting with
      | [] => utility name []
      | command :: args =>
        let s ← get
        let directories :=
          if (s.valueOf? "PATH".toList).isSome then s.directories else ["/bin", "/usr/bin"]
        match ← program directories command with
        | .ok found =>
          Act.work launchNanos
          launch run fuel found command args
        | .error failure =>
          say (name ++ ": ".toList ++ Utility.inPlainQuotes command ++ ": ".toList ++
            failure.reason.toList ++ ['\n'])
          (Act.exit (if failure = .permissionDenied then 126 else 127) : Act Unit)
    | _ => utility name args

/-- Complains that a program cannot be run. -/
def notFound (name : Octets) (status : Nat) : Deed Unit := do
  let reason := if status = 126 then ": Permission denied" else ": not found"
  complain (name ++ reason.toList)
  setStatus status

/-- The status of not finding a program, by why it is not found. -/
def missingStatus (failure : FileFailure) : Nat :=
  if failure = .permissionDenied then 126 else 127

end Deed

end SyscallPolicy.Host.Shell
