import SyscallPolicy.Profile.Document
import SyscallPolicy.Settings
import SyscallPolicy.Workload.Wait

/-!
# Workloads that are commands

A command is a program with arguments.  For a run under a profile the document of the
profile is stored in a file, and the place of that file stands wherever an argument holds
the placeholder; for a run without one, a fixed word stands there.  The child is then
watched until it ends or its time is over.

A run is a function of its surroundings: what storing, starting and looking give.
-/

namespace SyscallPolicy.Workload

/-- What stands for the place of the profile in an argument. -/
def placeholder : List Char := ['\x7b', 'p', 'r', 'o', 'f', 'i', 'l', 'e', '\x7d']

/-- Puts `value` for each occurrence of `text`, from left to right; what is put in is not
searched again. -/
def replaceFrom (text value : List Char) : Nat → List Char → List Char
  | 0, s => s
  | _, [] => []
  | fuel + 1, c :: rest =>
    if text.isPrefixOf (c :: rest) then
      value ++ replaceFrom text value fuel ((c :: rest).drop text.length)
    else c :: replaceFrom text value fuel rest

/-- An argument with its placeholders replaced. -/
def fillIn (value arg : String) : String :=
  String.ofList (replaceFrom placeholder value.toList arg.toList.length arg.toList)

/-- A command that runs a workload. -/
structure Command where
  program : String
  args : List String
  timeout : Duration
  /-- What stands for a profile in a run without one. -/
  unconstrained : String
  deriving DecidableEq, Repr

/-- Why the document of a profile is not stored. -/
inductive StoreFailure where
  /-- There could be no file for it. -/
  | create (reason : String)
  /-- It could not be written to its file. -/
  | write (reason : String)
  deriving DecidableEq, Repr

/-- The text of a failure. -/
def StoreFailure.message : StoreFailure → String
  | create reason => "cannot create trial profile: " ++ reason
  | write reason => "cannot write trial profile: " ++ reason

/-- What a run meets outside. -/
structure Surroundings where
  /-- Stores the document of a profile: the place of the file, or what went wrong. -/
  store : String → Except StoreFailure String
  /-- Starts a program with arguments: what looking at the child will show, or why it
  could not be started. -/
  start : String → List String → Except String (List Poll)
  /-- The clock when the waiting begins. -/
  clock : Instant

/-- What became of a run.  It has no outcome if the deadline is out of the range of the
clock, or if there is nothing more to see of a child that still runs. -/
structure Run where
  events : List ChildEvent
  outcome : Option Outcome
  deriving Repr

namespace Command

/-- A command with the default settings. -/
def new (program : String) (args : List String) : Command :=
  let settings : RunnerSettings := {}
  ⟨program, args, settings.timeout, settings.unconstrained⟩

/-- Applies settings. -/
def withSettings (c : Command) (settings : RunnerSettings) : Command :=
  { c with timeout := settings.timeout, unconstrained := settings.unconstrained }

/-- The arguments with this in place of the placeholder. -/
def argsWith (c : Command) (value : String) : List String :=
  c.args.map (fillIn value)

/-- Watches a child that was started. -/
def watch (c : Command) (clock : Instant) (polls : List Poll) : Run :=
  match clock.add? c.timeout with
  | none => ⟨[.spawn], none⟩
  | some deadline =>
    match await c.timeout deadline polls with
    | none => ⟨[.spawn], none⟩
    | some ⟨events, .ok status⟩ => ⟨.spawn :: events, some status.outcome⟩
    | some ⟨events, .error failure⟩ => ⟨.spawn :: events, some (.error failure)⟩

/-- Starts the command with this in place of the placeholder, and watches it. -/
def runWith (c : Command) (around : Surroundings) (value : String) : Run :=
  match around.start c.program (c.argsWith value) with
  | .error reason =>
    ⟨[], some (.error (.harness ("cannot launch '" ++ c.program ++ "': " ++ reason)))⟩
  | .ok polls => c.watch around.clock polls

/-- Runs the command, under a profile or without one. -/
def run (c : Command) (around : Surroundings) : Option Profile → Run
  | none => c.runWith around c.unconstrained
  | some p =>
    match around.store p.compactText with
    | .error failure => ⟨[], some (.error (.harness failure.message))⟩
    | .ok place => c.runWith around place

end Command

end SyscallPolicy.Workload
