import SyscallPolicy.Host.Process
import SyscallPolicy.Host.Signal

/-!
# Running processes

The processes of a host run side by side, each with a clock of its own.  It is always the turn
of the one that can go on at the earliest time, so requests are answered in the order of time.
A process that waits for others can go on when they have done what it waits for.

A pipe holds a text up to a bound.  Its reader finds the end when no process can write it any
more, and its writer gets a signal when no process can read it.
-/

namespace SyscallPolicy.Host

/-- What was written into a pipe and is not yet read. -/
structure Pipe where
  /-- What is read next. -/
  front : Octets := []
  /-- What comes behind, the last part first. -/
  back : List Octets := []
  size : Nat := 0

namespace Pipe

/-- How much a pipe holds. -/
def capacity : Nat := 65536

/-- The greatest size of a text that is written as a whole. -/
def unit : Nat := 4096

/-- Puts a text at the end. -/
def put (pipe : Pipe) (text : Octets) : Pipe :=
  { pipe with back := text :: pipe.back, size := pipe.size + text.length }

/-- Takes some bytes at most. -/
def take (pipe : Pipe) (most : Nat) : Octets × Pipe :=
  let front := if pipe.back.isEmpty then pipe.front
    else pipe.front ++ pipe.back.reverse.flatten
  let taken := front.take most
  (taken, { front := front.drop most, size := pipe.size - taken.length })

end Pipe

/-- Whether a process still runs. -/
inductive Phase where
  | running (process : Process)
  | ended (ending : Ending)

/-- A process among others. -/
structure Task where
  number : Nat
  parent : Nat
  clock : Nat
  /-- Which handles its descriptors stand for. -/
  table : List (Nat × Nat)
  /-- Its arrangements, where they are not the standard one. -/
  arrangements : List (Nat × Arrangement) := []
  /-- Signals that it was told of and has not yet asked for. -/
  noticed : List Nat := []
  isStopped : Bool := false
  /-- Signals that come to it when it is not stopped any more. -/
  held : List Nat := []
  /-- How long it has worked. -/
  worked : Nat := 0
  /-- How long it may work. -/
  bound? : Option Nat := none
  phase : Phase

namespace Task

/-- Whether it still runs. -/
def isRunning (t : Task) : Bool := t.phase matches .running _

/-- How it has ended, if it has. -/
def ending? (t : Task) : Option Ending :=
  match t.phase with
  | .ended ending => some ending
  | .running _ => none

/-- Goes on with another part of the process, at a time. -/
def goOn (t : Task) (clock : Nat) (process : Process) : Task :=
  { t with clock, phase := .running process }

/-- Ends at a time. -/
def finish (t : Task) (time : Nat) (ending : Ending) : Task :=
  { t with clock := max t.clock time, table := [], isStopped := false, phase := .ended ending }

/-- Its arrangement for a signal. -/
def arrangement (t : Task) (signal : Nat) : Arrangement :=
  if Signal.isTamable signal then (t.arrangements.lookup signal).getD .standard else .standard

/-- The nanoseconds from a signal to where it is noticed. -/
def noticeNanos : Nat := 100000

/-- Takes a signal while it is not stopped. -/
def take (t : Task) (signal time : Nat) : Task :=
  match t.arrangement signal with
  | .ignored => t
  | .noticed =>
    if t.noticed.contains signal then t
    else { t with noticed := t.noticed ++ [signal], clock := max t.clock (time + noticeNanos) }
  | .standard =>
    match Signal.reaction signal with
    | .ends => t.finish time (.signal signal)
    | .stops => { t with isStopped := true }
    | .resumes => t
    | .nothing => t

/-- Takes a signal at a time. -/
def receive (t : Task) (signal time : Nat) : Task :=
  if !t.isRunning then t
  else if signal = Signal.continuing then
    let resumed := { t with isStopped := false, held := [] }
    (signal :: t.held).foldl (fun t signal => if t.isRunning then t.take signal time else t) resumed
  else if t.isStopped && Signal.isTamable signal then { t with held := t.held ++ [signal] }
  else t.take signal time

/-- Spends time on work; a process that works for too long is ended. -/
def work (t : Task) (nanos : Nat) (process : Process) : Task :=
  let t := { t.goOn (t.clock + nanos) process with worked := t.worked + nanos }
  if t.bound?.any (· ≤ t.worked) then t.finish t.clock (.signal Signal.overtime) else t

end Task

/-- A host with its processes. -/
structure Kernel where
  root : FileNode
  /-- All that was ever opened, by handle. -/
  opened : Array OpenFile
  pipes : Array Pipe := #[]
  tasks : List Task
  now : Nat := 0
  /-- The number of the process that was made last. -/
  lastNumber : Nat
  /-- Processes of which only their numbers are known. -/
  others : List Nat := []

namespace Kernel

/-- The process with a number. -/
def task? (k : Kernel) (number : Nat) : Option Task :=
  k.tasks.find? fun t => t.number = number

/-- Replaces a process by what has become of it. -/
def setTask (k : Kernel) (t : Task) : Kernel :=
  { k with tasks := k.tasks.map fun other => if other.number = t.number then t else other }

/-- What a descriptor of a process stands for, with its handle. -/
def openFile? (k : Kernel) (t : Task) (descriptor : Nat) : Option (Nat × OpenFile) :=
  (t.table.lookup descriptor).bind fun handle => k.opened[handle]?.map fun file => (handle, file)

/-- Whether a process has something open that leads to a channel. -/
def isOpen (k : Kernel) (channel : Channel) : Bool :=
  k.tasks.any fun t => t.table.any fun (_, handle) =>
    k.opened[handle]?.any fun file => file.channel = channel

/-- Whether there is room in a pipe for a text, or a part of it. -/
def hasRoom (k : Kernel) (pipe : Nat) (text : Octets) : Bool :=
  k.pipes[pipe]?.any fun p =>
    p.size < Pipe.capacity && (Pipe.unit < text.length || p.size + text.length ≤ Pipe.capacity)

/-- The children of a process. -/
def children (k : Kernel) (number : Nat) : List Task :=
  k.tasks.filter fun t => t.parent = number

/-! ### Whose turn it is -/

/-- Whether a request can be answered at once. -/
def isReady (k : Kernel) (t : Task) : Process → Bool
  | .sleeps _ _ => !t.noticed.isEmpty
  | .reads descriptor _ isPatient _ =>
    match k.openFile? t descriptor with
    | some (_, { channel := .source pipe, .. }) =>
      k.pipes[pipe]?.any (0 < ·.size) || !k.isOpen (.sink pipe) ||
        (!isPatient && !t.noticed.isEmpty)
    | _ => true
  | .writes descriptor text _ =>
    match k.openFile? t descriptor with
    | some (_, { channel := .sink pipe, .. }) =>
      k.hasRoom pipe text || !k.isOpen (.source pipe)
    | _ => true
  | .waits patience _ =>
    let children := k.children t.number
    patience = .none || children.isEmpty || children.any (fun child => !child.isRunning) ||
      (patience = .hasty && !t.noticed.isEmpty)
  | _ => true

/-- When a process can go on, as things are. -/
def readyAt? (k : Kernel) (t : Task) : Option Nat :=
  match t.phase with
  | .ended _ => none
  | .running process =>
    if t.isStopped then none
    else if k.isReady t process then some (max t.clock k.now)
    else
      match process with
      | .sleeps nanos? _ => nanos?.map fun nanos => max (t.clock + nanos) k.now
      | _ => none

/-- The process that can go on first, and when. -/
def next? (k : Kernel) : Option (Nat × Task) :=
  k.tasks.foldl (fun found? t =>
    match k.readyAt? t, found? with
    | some time, some (least, first) => some (if time < least then (time, t) else (least, first))
    | some time, none => some (time, t)
    | none, _ => found?) none

/-! ### Files -/

/-- Makes a handle. -/
def addFile (k : Kernel) (file : OpenFile) : Kernel × Nat :=
  ({ k with opened := k.opened.push file }, k.opened.size)

/-- Changes what is open under a handle. -/
def setFile (k : Kernel) (handle : Nat) (file : OpenFile) : Kernel :=
  { k with opened := k.opened.setIfInBounds handle file }

/-- The content of the file at a place. -/
def content (k : Kernel) (place : List String) : ByteArray :=
  (k.root.at? place).elim .empty fun node => node.stream.bytes

/-- Puts content into the file at a place. -/
def store (k : Kernel) (place : List String) (bytes : ByteArray) : Kernel :=
  { k with root := k.root.put place (.regular bytes (k.now + 1)) }

/-- Opens something in a way. -/
def openChannel (k : Kernel) (channel : Channel) (access : Access) :
    Except FileFailure (Kernel × Nat) :=
  let canRead := access = .read || access = .both
  let file : OpenFile :=
    { channel, canRead, canWrite := access != .read, appends := access = .append }
  match channel with
  | .directory _ => if access = .read then .ok (k.addFile file) else .error .isDirectory
  | .file place =>
    match access with
    | .create => .error .fileExists
    | .write => .ok ((k.store place .empty).addFile file)
    | _ => .ok (k.addFile file)
  | .source pipe =>
    if canRead then .ok (k.addFile file) else .ok (k.addFile { file with channel := .sink pipe })
  | .sink pipe =>
    if canRead then .ok (k.addFile { file with channel := .source pipe }) else .ok (k.addFile file)
  | .device _ => .ok (k.addFile file)

/-- Opens a path for a process. -/
def openPath (k : Kernel) (t : Task) (here : List String) (path : String) (access : Access) :
    Except FileFailure (Kernel × Nat) :=
  let trail : Trail := { root := k.root, descriptors := t.table.map (·.1) }
  match trail.find here path with
  | .ok found =>
    match found.node with
    | .directory _ => k.openChannel (.directory found.place) access
    | .descriptors => k.openChannel (.directory found.place) access
    | .device device => k.openChannel (.device device) access
    | .descriptor number =>
      match k.openFile? t number with
      | some (_, file) => k.openChannel file.channel access
      | none => .error .notFound
    | _ => k.openChannel (.file found.place) access
  | .error failure =>
    if failure != .notFound || access = .read then .error failure
    else
      (trail.findNew here path).map fun place =>
        let file : OpenFile :=
          { channel := .file place, canRead := access = .both, appends := access = .append }
        (k.store place .empty).addFile file

/-- The nanoseconds that a request takes in any case. -/
def requestNanos : Nat := 1000

/-- How much is read at once from a device without end. -/
def devicePortion : Nat := 65536

/-- Reads from something open: the text, or why there is none, and the time that it takes.
The more was read from a device without end, the longer it takes to go on. -/
def readFile (k : Kernel) (handle most : Nat) (file : OpenFile) :
    Kernel × Except FileFailure Octets × Nat :=
  if !file.canRead then (k, .error .badDescriptor, 0)
  else
    match file.channel with
    | .device .sink => (k, .ok [], 0)
    | .device _ =>
      let count := min most devicePortion
      (k.setFile handle { file with offset := file.offset + count },
        .ok (List.replicate count '\x00'), file.offset)
    | .directory _ => (k, .error .isDirectory, 0)
    | .file place =>
      let bytes := (k.content place).extract file.offset (file.offset + most)
      (k.setFile handle { file with offset := file.offset + bytes.size },
        .ok (Octets.ofBytes bytes), bytes.size)
    | .source pipe =>
      let (text, rest) := ((k.pipes[pipe]?).getD {}).take most
      ({ k with pipes := k.pipes.setIfInBounds pipe rest }, .ok text, text.length)
    | .sink _ => (k, .error .badDescriptor, 0)

/-- Writes into the file at a place. -/
def writeFile (k : Kernel) (handle : Nat) (file : OpenFile) (place : List String)
    (text : Octets) : Kernel :=
  let old := k.content place
  let offset := if file.appends then old.size else file.offset
  let filling : ByteArray := ⟨(List.replicate (offset - old.size) 0).toArray⟩
  let behind := offset + text.length
  let bytes := old.extract 0 offset ++ filling ++ Octets.bytes text ++ old.extract behind old.size
  (k.store place bytes).setFile handle { file with offset := behind }

/-! ### Requests -/

/-- Tells the parent of a process that has ended, and forgets about it if nobody waits. -/
def bury (k : Kernel) (t : Task) : Kernel :=
  if t.isRunning then k
  else
    let isAlive (number : Nat) : Bool := (k.task? number).any Task.isRunning
    let tasks := k.tasks.map fun other =>
      if other.number = t.parent then other.receive Signal.childEnded k.now else other
    { k with tasks := tasks.filter fun other =>
        other.isRunning || isAlive other.parent || k.others.contains other.parent }

/-- Replaces a process by what has become of it, which may be its end. -/
def settle (k : Kernel) (t : Task) : Kernel := (k.setTask t).bury t

/-- Sends a signal to a process, if it still runs. -/
def sendTo (k : Kernel) (signal : Nat) (t : Task) : Kernel :=
  if signal = 0 || !t.isRunning then k else k.settle (t.receive signal k.now)

/-- Sends a signal to the process with a number, or to all for the number zero, and tells
whether there is such a process. -/
def send (k : Kernel) (signal target : Nat) : Kernel × Bool :=
  if target = 0 then
    (k.tasks.foldl (fun k t => k.sendTo signal ((k.task? t.number).getD t)) k, true)
  else
    match k.task? target with
    | some t => (k.sendTo signal t, true)
    | none => (k, k.others.contains target)

/-- Answers the request of a process to write. -/
def write (k : Kernel) (t : Task) (descriptor : Nat) (text : Octets)
    (next : Except FileFailure Unit → Process) : Kernel :=
  let clock := k.now + requestNanos + text.length
  let answer (k : Kernel) (result : Except FileFailure Unit) : Kernel :=
    k.setTask (t.goOn clock (next result))
  match k.openFile? t descriptor with
  | none => answer k (.error .badDescriptor)
  | some (handle, file) =>
    if !file.canWrite then answer k (.error .badDescriptor)
    else
      match file.channel with
      | .device .full => answer k (.error .noSpace)
      | .device _ => answer k (.ok ())
      | .directory _ => answer k (.error .badDescriptor)
      | .file place => answer (k.writeFile handle file place text) (.ok ())
      | .source _ => answer k (.error .badDescriptor)
      | .sink pipe =>
        if !k.isOpen (.source pipe) then
          k.settle ((t.goOn clock (next (.error .brokenPipe))).receive Signal.brokenPipe k.now)
        else
          let p := (k.pipes[pipe]?).getD {}
          let part := text.take (Pipe.capacity - p.size)
          let rest := text.drop part.length
          let k := { k with pipes := k.pipes.setIfInBounds pipe (p.put part) }
          if rest.isEmpty then answer k (.ok ())
          else k.setTask (t.goOn clock (.writes descriptor rest next))

/-- Answers the request of a process, whose turn it is. -/
def answer (k : Kernel) (t : Task) (process : Process) : Kernel :=
  let goOn (k : Kernel) (process : Process) : Kernel :=
    k.setTask (t.goOn (k.now + requestNanos) process)
  match process with
  | .ends status => k.settle (t.finish k.now (.status (status % 256)))
  | .breaks signal => k.settle (t.finish k.now (.signal signal))
  | .works nanos next => k.settle ({ t with clock := k.now }.work nanos (next ()))
  | .sleeps _ next => goOn k (next ())
  | .looks next =>
    let opened := t.table.filterMap fun (descriptor, handle) =>
      k.opened[handle]?.map fun file => (descriptor, file)
    k.setTask (t.goOn k.now (next { root := k.root, opened, self := t.number, parent := t.parent }))
  | .opens here path access next =>
    match k.openPath t here path access with
    | .ok (k, handle) => goOn k (next (.ok handle))
    | .error failure => goOn k (next (.error failure))
  | .pipes next =>
    let pipe := k.pipes.size
    let (k, source) := { k with pipes := k.pipes.push {} }.addFile
      { channel := .source pipe, canWrite := false }
    let (k, sink) := k.addFile { channel := .sink pipe, canRead := false }
    goOn k (next source sink)
  | .connects table next => k.setTask ({ t with table }.goOn k.now (next ()))
  | .reads descriptor most isPatient next =>
    match k.openFile? t descriptor with
    | none => goOn k (next (.error .badDescriptor))
    | some (handle, file) =>
      let isEmpty :=
        match file.channel with
        | .source pipe => k.pipes[pipe]?.all (·.size = 0) && k.isOpen (.sink pipe)
        | _ => false
      if isEmpty && !isPatient && !t.noticed.isEmpty then goOn k (next (.error .interrupted))
      else
        let (k, result, nanos) := k.readFile handle most file
        k.setTask (t.goOn (k.now + requestNanos + nanos) (next result))
  | .writes descriptor text next => k.write t descriptor text next
  | .seeks descriptor offset next =>
    let k := match k.openFile? t descriptor with
      | some (handle, file) => k.setFile handle { file with offset }
      | none => k
    goOn k (next ())
  | .changes change next => goOn { k with root := change (k.now + 1) k.root } (next ())
  | .forks child next =>
    let number := k.lastNumber + 1
    let start := k.now + forkNanos
    let made : Task :=
      { t with
        number, parent := t.number, clock := start, noticed := [], held := [], worked := 0
        phase := .running child }
    let k := { k with lastNumber := number, tasks := k.tasks ++ [made] }
    k.setTask (t.goOn (k.now + forkNanos / 2) (next number))
  | .waits _ next =>
    match (k.children t.number).find? fun child => !child.isRunning with
    | some child =>
      let k := { k with tasks := k.tasks.filter fun other => other.number != child.number }
      goOn k (next (child.ending?.map fun ending => (child.number, ending)))
    | none => goOn k (next none)
  | .sends signal target next =>
    let isThere := (k.send signal target).2
    ((k.setTask (t.goOn (k.now + requestNanos) (next isThere))).send signal target).1
  | .arranges signal arrangement next =>
    let others := t.arrangements.filter fun a => a.1 != signal
    let arrangements := if arrangement = .standard then others else (signal, arrangement) :: others
    k.setTask ({ t with arrangements }.goOn k.now (next ()))
  | .notices next => k.setTask ({ t with noticed := [] }.goOn k.now (next t.noticed))
  | .bounds nanos? next => k.setTask ({ t with bound? := nanos? }.goOn k.now (next ()))
where
  /-- The nanoseconds that it takes to make a process. -/
  forkNanos : Nat := 500000

/-- Lets the processes run until one of them has ended, none of them can go on, or a time has
come. -/
def run (main deadline : Nat) : Nat → Kernel → Kernel
  | 0, k => k
  | fuel + 1, k =>
    if (k.task? main).any fun t => !t.isRunning then k
    else
      match k.next? with
      | none => k
      | some (time, t) =>
        if deadline ≤ time then k
        else
          match t.phase with
          | .running process => run main deadline fuel ({ k with now := time }.answer t process)
          | .ended _ => k

end Kernel

end SyscallPolicy.Host
