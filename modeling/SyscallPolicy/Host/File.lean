import SyscallPolicy.ByteStream
import SyscallPolicy.Host.Octets

/-!
# Files of a host

A tree of directories, files, devices, links and programs, and the rules by which a path
leads to one of them: empty parts and single dots stay where they are, two dots go up, a
link stands for the path that it holds, and every part but the last must lead to a
directory.  A relative path starts in a working directory.  A place is a path from the root
without links and such parts; at a place a tree can be changed.

One directory shows to each process what it has open, by number.
-/

namespace SyscallPolicy.Host

/-- Why something cannot be done with a file or a program. -/
inductive FileFailure where
  | notFound
  | interrupted
  | argumentsTooLong
  | badDescriptor
  | permissionDenied
  | fileExists
  | notDirectory
  | isDirectory
  | tooManyOpen
  | noSpace
  | brokenPipe
  | nameTooLong
  | notEmpty
  | tooManyLinks
  /-- The path holds a zero character. -/
  | zeroInPath
  /-- An argument of a program holds a zero character. -/
  | zeroInArgument
  deriving DecidableEq, Repr

/-- What went wrong, in words. -/
def FileFailure.reason : FileFailure → String
  | notFound => "No such file or directory"
  | interrupted => "Interrupted system call"
  | argumentsTooLong => "Argument list too long"
  | badDescriptor => "Bad file descriptor"
  | permissionDenied => "Permission denied"
  | fileExists => "File exists"
  | notDirectory => "Not a directory"
  | isDirectory => "Is a directory"
  | tooManyOpen => "Too many open files"
  | noSpace => "No space left on device"
  | brokenPipe => "Broken pipe"
  | nameTooLong => "File name too long"
  | notEmpty => "Directory not empty"
  | tooManyLinks => "Too many levels of symbolic links"
  | zeroInPath => "file name contained an unexpected NUL byte"
  | zeroInArgument => "nul byte found in provided data"

/-- The number that the system gives to a failure. -/
def FileFailure.number? : FileFailure → Option Nat
  | notFound => some 2
  | interrupted => some 4
  | argumentsTooLong => some 7
  | badDescriptor => some 9
  | permissionDenied => some 13
  | fileExists => some 17
  | notDirectory => some 20
  | isDirectory => some 21
  | tooManyOpen => some 24
  | noSpace => some 28
  | brokenPipe => some 32
  | nameTooLong => some 36
  | notEmpty => some 39
  | tooManyLinks => some 40
  | zeroInPath => none
  | zeroInArgument => none

/-- The text of a failure, with its number if it has one. -/
def FileFailure.message (failure : FileFailure) : String :=
  match failure.number? with
  | some number => failure.reason ++ " (os error " ++ toString number ++ ")"
  | none => failure.reason

/-- The programs of a host. -/
inductive Program where
  | shell
  | true_
  | false_
  | sleep
  | test
  | bracket
  | echo
  | print
  | cat
  | grep
  | wordCount
  | head
  | tail
  | counting
  | baseName
  | directoryName
  | environment
  | touch
  | remove
  | makeDirectory
  deriving DecidableEq, Repr

/-- A device without storage. -/
inductive Device where
  /-- It is empty when read and takes whatever is written. -/
  | sink
  /-- It can be read without end and nothing can be written on it. -/
  | full
  /-- It can be read without end and takes whatever is written. -/
  | endless
  deriving DecidableEq, Repr

/-- What stands in a tree of files. -/
inductive FileNode where
  | directory (entries : List (String × FileNode))
  /-- A file, with the time of its last change. -/
  | regular (bytes : ByteArray) (changed : Nat)
  | device (device : Device)
  /-- Another path to be followed. -/
  | link (target : String)
  /-- The directory of what a process has open. -/
  | descriptors
  /-- What a process has open under a number. -/
  | descriptor (number : Nat)
  | program (program : Program)

/-- The first bytes of the file of any program, which are no text. -/
def programBytes : ByteArray :=
  ⟨#[0x7F, 0x45, 0x4C, 0x46, 2, 1, 1, 0, 0, 0, 0, 0, 0, 0, 0, 0, 3, 0, 0x3E, 0, 1, 0, 0, 0, 0xC0]⟩

/-- A node with its place. -/
structure Located where
  place : List String
  node : FileNode

/-- The parts of a path. -/
def partsOf (path : String) : List String :=
  (Octets.cut '/' path.toList).map String.ofList

/-- How a path is followed: in which tree, with what open, and whether a link at its end is
followed, too. -/
structure Trail where
  root : FileNode
  descriptors : List Nat := []
  followsLast : Bool := true

/-- The greatest number of links that are followed. -/
def greatestLinks : Nat := 40

namespace Trail

/-- The number of something open that a name stands for. -/
def descriptor? (trail : Trail) (name : String) : Option Nat :=
  (Octets.count? name.toList).filter fun number =>
    trail.descriptors.contains number && Octets.numeral number == name.toList

/-- What a directory holds under a name. -/
def entry? (trail : Trail) (name : String) : FileNode → Except FileFailure FileNode
  | .directory entries =>
    if name.utf8ByteSize > 255 then .error .nameTooLong
    else (entries.lookup name).elim (.error .notFound) .ok
  | .descriptors => (trail.descriptor? name).elim (.error .notFound) fun n => .ok (.descriptor n)
  | _ => .error .notDirectory

/-- Whether a node is a directory. -/
def isDirectory : FileNode → Bool
  | .directory _ => true
  | .descriptors => true
  | _ => false

/-- Follows the parts of a path from a node, given the names and nodes on the way to it, the
last ones first.  At most so many links are followed. -/
def walk (trail : Trail) (links : Nat) (way : List (String × FileNode)) (parts : List String) :
    Except FileFailure Located :=
  let here := (way.head?.map (·.2)).getD trail.root
  match parts with
  | [] => .ok ⟨(way.map (·.1)).reverse, here⟩
  | part :: rest =>
    if !isDirectory here then .error .notDirectory
    else if part = "" || part = "." then trail.walk links way rest
    else if part = ".." then trail.walk links way.tail rest
    else
      match trail.entry? part here with
      | .error failure => .error failure
      | .ok (.link target) =>
        if rest.isEmpty && !trail.followsLast then
          .ok ⟨(part :: way.map (·.1)).reverse, .link target⟩
        else
          match links with
          | 0 => .error .tooManyLinks
          | links + 1 =>
            let way := if target.toList.head? = some '/' then [] else way
            trail.walk links way (partsOf target ++ rest)
      | .ok next => trail.walk links ((part, next) :: way) rest
  termination_by (links, parts.length)

end Trail

namespace FileNode

/-- What is at a place. -/
def at? (root : FileNode) (place : List String) : Option FileNode :=
  ((Trail.walk { root, followsLast := false } 0 [] place).toOption).map (·.node)

/-- What a reader gets from a node: a directory can be opened, but not read. -/
def stream : FileNode → ByteStream
  | directory _ => ⟨.empty, some FileFailure.isDirectory.message⟩
  | descriptors => ⟨.empty, some FileFailure.isDirectory.message⟩
  | regular bytes _ => ⟨bytes, none⟩
  | device _ => ⟨.empty, none⟩
  | link _ => ⟨.empty, none⟩
  | descriptor _ => ⟨.empty, none⟩
  | program _ => ⟨programBytes, none⟩

/-- Changes the entry with a name, which comes last if it is new, and goes away if nothing
is left of it. -/
def alterEntry (name : String) (change : Option FileNode → Option FileNode) :
    List (String × FileNode) → List (String × FileNode)
  | [] => (change none).toList.map fun node => (name, node)
  | (key, node) :: rest =>
    if key = name then (change (some node)).toList.map (fun node => (key, node)) ++ rest
    else (key, node) :: alterEntry name change rest

/-- Changes what is at a place, or puts something there. -/
def alter (change : Option FileNode → Option FileNode) : List String → FileNode → FileNode
  | [name], directory entries => directory (alterEntry name change entries)
  | part :: rest, directory entries =>
    directory (alterEntry part (fun node? => node?.map (alter change rest)) entries)
  | _, here => here

/-- The tree with a node at a place. -/
def put (root : FileNode) (place : List String) (node : FileNode) : FileNode :=
  alter (fun _ => some node) place root

/-- The tree with nothing at a place. -/
def erase (root : FileNode) (place : List String) : FileNode :=
  alter (fun _ => none) place root

end FileNode

/-- Where relative paths start. -/
def workingDirectory : List String := ["work"]

/-- The parts of a path as they are followed from the root. -/
def fromRoot (here : List String) (path : String) : List String :=
  if path.toList.head? = some '/' then partsOf path else here ++ partsOf path

/-- What a path leads to, from a working directory. -/
def Trail.find (trail : Trail) (here : List String) (path : String) :
    Except FileFailure Located :=
  if path = "" then .error .notFound
  else if path.toList.contains '\x00' then .error .zeroInPath
  else if path.utf8ByteSize ≥ 4096 then .error .nameTooLong
  else trail.walk greatestLinks [] (fromRoot here path)

/-- The place where something new can be put that a path names, if there is nothing yet. -/
def Trail.findNew (trail : Trail) (here : List String) (path : String) :
    Except FileFailure (List String) :=
  let parts := if path = "" then [] else fromRoot here path
  match parts.getLast?, trail.walk greatestLinks [] parts.dropLast with
  | none, _ => .error .notFound
  | some "", _ => .error .isDirectory
  | some ".", _ => .error .isDirectory
  | some "..", _ => .error .isDirectory
  | some _, .error failure => .error failure
  | some name, .ok found =>
    match found.node with
    | .directory _ =>
      if name.utf8ByteSize > 255 then .error .nameTooLong else .ok (found.place ++ [name])
    | .descriptors => .error .notFound
    | _ => .error .notDirectory

/-- What a path leads to for a process with nothing but its standard streams. -/
def resolve (root : FileNode) (path : String) : Except FileFailure FileNode :=
  ({ root, descriptors := [0, 1, 2] : Trail }.find workingDirectory path).map (·.node)

/-- What reading a whole file gives, if the path can be opened and read. -/
def readFile? (root : FileNode) (path : String) : Option ByteArray :=
  match resolve root path with
  | .error _ => none
  | .ok node => if node.stream.fault.isSome then none else some node.stream.bytes

/-- Where programs are looked for that are named without a directory. -/
def searchPath : List String :=
  ["/usr/local/sbin", "/usr/local/bin", "/usr/sbin", "/usr/bin", "/sbin", "/bin"]

/-- The path of a name in one directory of a search path. -/
def inDirectory (directory name : String) : String :=
  if directory = "" then name else directory ++ "/" ++ name

/-- The program that a name or a path stands for. -/
def Trail.findProgram (trail : Trail) (here : List String) (directories : List String)
    (name : String) : Except FileFailure Program :=
  if name.toList.contains '\x00' then .error .zeroInArgument
  else if name = "" then .error .notFound
  else if name.toList.contains '/' then
    match trail.find here name with
    | .ok ⟨_, .program p⟩ => .ok p
    | .ok _ => .error .permissionDenied
    | .error failure => .error failure
  else if name.utf8ByteSize > 255 then .error .nameTooLong
  else
    let found := directories.map fun directory => trail.find here (inDirectory directory name)
    match found.findSome? fun | .ok ⟨_, .program p⟩ => some p | _ => none with
    | some p => .ok p
    | none =>
      if found.any fun | .ok _ => true | .error _ => false then .error .permissionDenied
      else .error .notFound

/-- The programs and the names under which they are found. -/
def programs : List (String × FileNode) :=
  [("sh", .link "dash"), ("dash", .program .shell), ("true", .program .true_),
   ("false", .program .false_), ("sleep", .program .sleep), ("test", .program .test),
   ("[", .program .bracket), ("echo", .program .echo), ("printf", .program .print),
   ("cat", .program .cat), ("grep", .program .grep), ("wc", .program .wordCount),
   ("head", .program .head), ("tail", .program .tail), ("seq", .program .counting),
   ("basename", .program .baseName), ("dirname", .program .directoryName),
   ("env", .program .environment), ("touch", .program .touch), ("rm", .program .remove),
   ("mkdir", .program .makeDirectory)]

/-- A file that was there from the beginning. -/
def FileNode.ofLines (lines : List String) : FileNode :=
  .regular (String.join (lines.map (· ++ "\n"))).toUTF8 0

/-- The tree of a small host. -/
def baseTree : FileNode :=
  .directory [
    ("bin", .link "usr/bin"),
    ("dev", .directory [
      ("fd", .link "/proc/self/fd"),
      ("full", .device .full),
      ("null", .device .sink),
      ("random", .device .endless),
      ("shm", .directory []),
      ("stderr", .link "/proc/self/fd/2"),
      ("stdin", .link "/proc/self/fd/0"),
      ("stdout", .link "/proc/self/fd/1"),
      ("urandom", .device .endless),
      ("zero", .device .endless)]),
    ("etc", .directory [
      ("group", .ofLines ["root:x:0:"]),
      ("hostname", .ofLines ["host"]),
      ("hosts", .ofLines ["127.0.0.1 localhost"]),
      ("passwd", .ofLines ["root:x:0:0:root:/root:/bin/sh"]),
      ("shells", .ofLines ["/bin/sh", "/usr/bin/sh"])]),
    ("home", .directory []),
    ("lib", .link "usr/lib"),
    ("proc", .directory [("self", .directory [("fd", .descriptors)])]),
    ("root", .directory []),
    ("sbin", .link "usr/sbin"),
    ("sys", .directory []),
    ("tmp", .directory []),
    ("usr", .directory [
      ("bin", .directory programs),
      ("lib", .directory []),
      ("local", .directory [("bin", .directory []), ("sbin", .directory [])]),
      ("sbin", .directory [])]),
    ("var", .directory [("log", .directory []), ("tmp", .directory [])]),
    ("work", .directory [])]

end SyscallPolicy.Host
