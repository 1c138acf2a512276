import SyscallPolicy.AuditLog.Basic
import SyscallPolicy.Host.Kernel
import SyscallPolicy.Host.Shell.Eval
import SyscallPolicy.Settings.Document
import SyscallPolicy.Workload.Command

/-!
# A host to run on

A small host with files, utilities and a shell, on which logs and settings are opened and
commands are run.  Its clock starts at a fixed reading, a program takes a little time to
get started, and a child is looked at in fixed intervals.
-/

namespace SyscallPolicy.Host

open Workload (Command ExitStatus Instant Poll Surroundings)

/-- Opens the log at a path. -/
def openLog (root : FileNode) (path : String) (pids : List Int) : Except Failure AuditLog :=
  match resolve root path with
  | .error failure => .error (.logUnavailable path failure.message)
  | .ok node => .ok (.ofStream node.stream pids)

/-- Loads the settings at a path. -/
def loadSettings (root : FileNode) (path : String) : Except SettingsFailure Settings :=
  Settings.ofFile path (readFile? root path)

/-- Where the document of a profile is stored. -/
def profileDirectory : List String := ["tmp"]

/-- Under which name it is stored there. -/
def profileName : String := "seccomp-trial-000000.json"

/-- The path of a stored profile. -/
def profilePlace : String := "/tmp/" ++ profileName

/-- The tree with a stored profile. -/
def withProfile (root : FileNode) (document : String) : FileNode :=
  root.put (profileDirectory ++ [profileName]) (.regular document.toUTF8 1)

/-- How a process goes on: when it ends and how, if it does before nothing matters any more. -/
structure Course where
  lasts : Nat
  ending? : Option Ending

/-- The status that a parent sees when a process has ended. -/
def exitStatus : Ending → ExitStatus
  | .status value => .code (value : Nat)
  | .signal _ => .signal

/-- The nanoseconds that pass before the first program starts. -/
def startupNanos : Nat := 1000000

/-- The nanoseconds between two looks at a child. -/
def pollNanos : Nat := 10000000

/-- The longest time for which a process is followed, in nanoseconds. -/
def longestNanos : Nat := 3600000000000

/-- The number of the first process. -/
def firstProcess : Nat := 1001

/-- The process that the commands are run by, and the one behind all others. -/
def ownProcesses : List Nat := [1000, 1]

/-- The greatest number of requests that processes make. -/
def greatestRequests : Nat := 1000000000

/-- A host with one process, which has nothing to read and whose output goes away. -/
def kernelOf (root : FileNode) (process : Process) : Kernel :=
  { root
    opened := #[{ channel := .device .sink, canWrite := false },
      { channel := .device .sink, canRead := false }]
    tasks := [
      { number := firstProcess, parent := ownProcesses.headD 1, clock := startupNanos
        table := [(0, 0), (1, 1), (2, 1)], phase := .running process }]
    lastNumber := firstProcess, others := ownProcesses }

/-- What is handed on to the first program. -/
def handedOn : Shell.State :=
  let given : List (String × Octets) :=
    [("HOME", "/root".toList), ("PATH", Octets.join [':'] (searchPath.map String.toList)),
     ("PWD", Shell.pathOf workingDirectory)]
  { main := firstProcess, name := [], hereName := Shell.pathOf workingDirectory
    descriptors := [(0, 0), (1, 1), (2, 1)]
    bindings := given.map fun (name, value) =>
      (name.toList, { value? := some value, isExported := true }) }

/-- The course of a program, which is followed for a time. -/
def courseOf (root : FileNode) (nanos : Nat) (program : Program) (name : String)
    (args : List String) : Course :=
  let process := Shell.programProcess program (Octets.ofString name) (args.map Octets.ofString)
    handedOn
  let deadline := min nanos longestNanos + 2 * pollNanos
  let after := (kernelOf root process).run firstProcess deadline greatestRequests
  match after.task? firstProcess with
  | some task => { lasts := task.clock, ending? := task.ending? }
  | none => { lasts := deadline, ending? := none }

/-- The greatest size of an argument, with the zero at its end. -/
def argumentBound : Nat := 131072

/-- The greatest size of all arguments and of what is handed on, each with the zero at its end
and the place where it is found. -/
def argumentsBound : Nat := 2097152

/-- The size of what is handed on to programs besides their arguments. -/
def handedOnSize : Nat := 256

/-- Whether arguments are too long for a program. -/
def areTooLong (name : String) (args : List String) : Bool :=
  let sizes := (name :: args).map fun arg => arg.utf8ByteSize + 1
  sizes.any (argumentBound < ·) ||
    argumentsBound < sizes.foldl (fun n size => n + size + 8) handedOnSize

/-- The clock of the host when a child is started. -/
def clock : Instant := ⟨1000, 0⟩

/-- The looks at a process: it is seen running until its time is over, or the time that
matters is. -/
def polls (course : Course) (matters : Nat) : List Poll :=
  let ended? (time : Nat) : Option ExitStatus :=
    if course.lasts ≤ time then course.ending?.map exitStatus else none
  let last := if course.ending?.isSome then min course.lasts matters else matters
  (List.range (last / pollNanos + 2)).map fun i =>
    match ended? (i * pollNanos) with
    | some status => .ended status
    | none =>
      .running ((clock.add? ⟨i * pollNanos / 1000000000, i * pollNanos % 1000000000⟩).getD clock)

/-- Starts a program on the host: the looks at it, or why it cannot be started. -/
def start (root : FileNode) (nanos : Nat) (name : String) (args : List String) :
    Except FileFailure (List Poll) :=
  if (name :: args).any fun text => text.toList.contains '\x00' then .error .zeroInArgument
  else
    match Trail.findProgram { root } workingDirectory searchPath name with
    | .error failure => .error failure
    | .ok program =>
      if areTooLong name args then .error .argumentsTooLong
      else .ok (polls (courseOf root nanos program name args) nanos)

/-- What a run meets on the host. -/
def surroundings (root : FileNode) (timeout : Duration) (profile : Option Profile) :
    Surroundings where
  store _ := .ok profilePlace
  start name args :=
    let root := profile.elim root fun p => withProfile root p.compactText
    (start root timeout.toNanos name args).mapError FileFailure.message
  clock := clock

/-- Runs a command on the host.  There is no outcome if the clock of the host cannot show
the deadline. -/
def runCommand (root : FileNode) (c : Command) (profile : Option Profile) :
    Option Workload.Outcome :=
  (c.run (surroundings root c.timeout profile) profile).outcome

end SyscallPolicy.Host
