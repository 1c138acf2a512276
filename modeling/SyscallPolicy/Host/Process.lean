import SyscallPolicy.Host.File

/-!
# Processes

A process is a tree of requests to the host.  Each request but the last one goes on with what
the host answers, so what a process does is given by what it asks for, and it can be put aside
between any two requests.

An act is a part of a process that comes to a result.  Acts are put together with the part
behind them, so a process that ends inside of an act never gets to that part.
-/

namespace SyscallPolicy.Host

/-- How a process ends. -/
inductive Ending where
  | status (value : Nat)
  | signal (number : Nat)
  deriving DecidableEq, Repr

/-- What something open leads to. -/
inductive Channel where
  | device (device : Device)
  | file (place : List String)
  | directory (place : List String)
  /-- The end of a pipe that can be read. -/
  | source (pipe : Nat)
  /-- The end of a pipe that can be written. -/
  | sink (pipe : Nat)
  deriving DecidableEq, Repr

/-- Whether two channels lead to the same thing: both ends of a pipe do. -/
def Channel.isSame : Channel → Channel → Bool
  | source m, sink n => m = n
  | sink m, source n => m = n
  | first, second => first = second

/-- Something open. -/
structure OpenFile where
  channel : Channel
  /-- Where in a file it is read or written next. -/
  offset : Nat := 0
  canRead : Bool := true
  canWrite : Bool := true
  /-- Whether all that is written comes at the end of the file. -/
  appends : Bool := false
  deriving Repr

/-- How a path is opened. -/
inductive Access where
  | read
  /-- For writing, from nothing on. -/
  | write
  | append
  | both
  /-- For writing, where there is no file yet. -/
  | create
  deriving DecidableEq, Repr

/-- What a process does about a signal. -/
inductive Arrangement where
  | standard
  | ignored
  /-- It takes notice of the signal. -/
  | noticed
  deriving DecidableEq, Repr

/-- How a process waits for its children. -/
inductive Patience where
  /-- Until one has ended. -/
  | patient
  /-- Until one has ended, or a signal is noticed. -/
  | hasty
  /-- Not at all. -/
  | none
  deriving DecidableEq, Repr

/-- What a process can see. -/
structure View where
  root : FileNode
  /-- What it has open, by number. -/
  opened : List (Nat × OpenFile)
  self : Nat
  parent : Nat

/-- What a process is going to do. -/
inductive Process where
  /-- It ends with a status. -/
  | ends (status : Nat)
  /-- It is ended by a signal, whatever it has arranged. -/
  | breaks (signal : Nat)
  /-- It works for some time, in nanoseconds. -/
  | works (nanos : Nat) (next : Unit → Process)
  /-- It sleeps for some time or without end, or until it notices a signal. -/
  | sleeps (nanos? : Option Nat) (next : Unit → Process)
  | looks (next : View → Process)
  /-- It opens a path, seen from a working directory; the answer is a handle. -/
  | opens (here : List String) (path : String) (access : Access)
      (next : Except FileFailure Nat → Process)
  /-- It makes a pipe; the answer is the handles of its source and its sink. -/
  | pipes (next : Nat → Nat → Process)
  /-- It sets which handles its descriptors stand for. -/
  | connects (table : List (Nat × Nat)) (next : Unit → Process)
  /-- It reads some bytes at most, and none where it finds the end. -/
  | reads (descriptor most : Nat) (isPatient : Bool) (next : Except FileFailure Octets → Process)
  | writes (descriptor : Nat) (text : Octets) (next : Except FileFailure Unit → Process)
  | seeks (descriptor offset : Nat) (next : Unit → Process)
  /-- It changes the tree of files, given the time. -/
  | changes (change : Nat → FileNode → FileNode) (next : Unit → Process)
  /-- It starts a child with the same arrangements; the answer is the number of the child. -/
  | forks (child : Process) (next : Nat → Process)
  /-- It waits for a child; the answer is the number and the ending of one that has ended. -/
  | waits (patience : Patience) (next : Option (Nat × Ending) → Process)
  /-- It sends a signal to the process with a number, or to all for the number zero; the answer
  is whether there is such a process. -/
  | sends (signal target : Nat) (next : Bool → Process)
  | arranges (signal : Nat) (arrangement : Arrangement) (next : Unit → Process)
  /-- It asks for the signals that it has noticed since it did so before. -/
  | notices (next : List Nat → Process)
  /-- It may work only so long in all. -/
  | bounds (nanos? : Option Nat) (next : Unit → Process)

instance : Inhabited Process := ⟨.ends 0⟩

/-- A part of a process that comes to a result, given the part behind it. -/
def Act (α : Type) : Type := (α → Process) → Process

namespace Act

/-- The process that an act is with another part behind it. -/
@[inline] def then_ {α : Type} (act : Act α) (next : α → Process) : Process := act next

instance : Monad Act where
  pure a := fun next => next a
  bind act rest := fun next => act fun a => rest a next

/-- Gives the process over, so that nothing comes behind. -/
def become {α : Type} (process : Process) : Act α := fun _ => process

/-- Ends the process. -/
def exit {α : Type} (status : Nat) : Act α := become (.ends status)

/-- Ends the process by a signal, whatever it has arranged. -/
def break_ {α : Type} (signal : Nat) : Act α := become (.breaks signal)

/-- Works for some time. -/
def work (nanos : Nat) : Act Unit := Process.works nanos

/-- Sleeps for some time or without end, or until a signal is noticed. -/
def sleep (nanos? : Option Nat) : Act Unit := Process.sleeps nanos?

/-- Looks around. -/
def look : Act View := Process.looks

/-- Opens a path. -/
def open_ (here : List String) (path : String) (access : Access) : Act (Except FileFailure Nat) :=
  Process.opens here path access

/-- Makes a pipe. -/
def pipe : Act (Nat × Nat) := fun next => .pipes fun source sink => next (source, sink)

/-- Sets which handles descriptors stand for. -/
def connect (table : List (Nat × Nat)) : Act Unit := Process.connects table

/-- Reads some bytes at most. -/
def read (descriptor most : Nat) (isPatient : Bool) : Act (Except FileFailure Octets) :=
  Process.reads descriptor most isPatient

/-- Writes a text. -/
def write (descriptor : Nat) (text : Octets) : Act (Except FileFailure Unit) :=
  if text.isEmpty then pure (.ok ()) else Process.writes descriptor text

/-- Sets where a file is read or written next. -/
def seek (descriptor offset : Nat) : Act Unit := Process.seeks descriptor offset

/-- Changes the tree of files, given the time. -/
def change (f : Nat → FileNode → FileNode) : Act Unit := Process.changes f

/-- Starts a child with the same arrangements. -/
def fork (child : Process) : Act Nat := Process.forks child

/-- Waits for a child. -/
def wait (patience : Patience) : Act (Option (Nat × Ending)) := Process.waits patience

/-- Sends a signal. -/
def send (signal target : Nat) : Act Bool := Process.sends signal target

/-- Makes an arrangement for a signal. -/
def arrange (signal : Nat) (arrangement : Arrangement) : Act Unit :=
  Process.arranges signal arrangement

/-- Asks for the signals that were noticed. -/
def notice : Act (List Nat) := Process.notices

/-- Sets how long the process may work in all. -/
def bound (nanos? : Option Nat) : Act Unit := Process.bounds nanos?

end Act

namespace View

/-- How the process follows paths. -/
def trail (view : View) : Trail :=
  { root := view.root, descriptors := view.opened.map (·.1) }

/-- What a descriptor stands for. -/
def openFile? (view : View) (descriptor : Nat) : Option OpenFile :=
  view.opened.lookup descriptor

/-- What a node leads to when it is opened. -/
def channelOf (view : View) (found : Located) : Except FileFailure Channel :=
  match found.node with
  | .directory _ => .ok (.directory found.place)
  | .descriptors => .ok (.directory found.place)
  | .device device => .ok (.device device)
  | .descriptor number =>
    (view.openFile? number).elim (.error .notFound) fun file => .ok file.channel
  | .link _ => .error .notFound
  | _ => .ok (.file found.place)

/-- What a path leads to when it is opened, from a working directory. -/
def channelAt (view : View) (here : List String) (path : Octets) : Except FileFailure Channel := do
  view.channelOf (← view.trail.find here (Octets.toText path))

/-- The size of what something leads to, where it has one. -/
def sizeOf? (view : View) : Channel → Option Nat
  | .file place => (view.root.at? place).map fun node => node.stream.bytes.size
  | _ => none

end View

end SyscallPolicy.Host
