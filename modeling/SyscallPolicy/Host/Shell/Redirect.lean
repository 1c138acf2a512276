import SyscallPolicy.Host.Shell.Run

/-!
# Redirections

A redirection puts something else in the place of a descriptor.  The words of all redirections
of a command are expanded before the first one is made, even if they are made in a child.  What
is replaced is kept under spare descriptors meanwhile, so that it stays open.
-/

namespace SyscallPolicy.Host.Shell

/-- Why a path cannot be opened, in the words of a shell. -/
def openingComplaint (opening : Opening) (path : Octets) (failure : FileFailure) : Octets :=
  let isMissing := failure == .notFound || failure == .notDirectory
  let (verb, missing) :=
    if opening = .read then ("cannot open ", "No such file")
    else ("cannot create ", "Directory nonexistent")
  verb.toList ++ path ++ ": ".toList ++ (if isMissing then missing else failure.reason).toList

/-- What a descriptor is redirected to, once the word that names it is expanded. -/
inductive Target where
  | file (opening : Opening) (path : Octets)
  | copy (source : Nat)
  | closed
  /-- A text, which is expanded when it is needed. -/
  | document (body : Word)

/-- What the fields behind the sign for copying stand for. -/
def copyTarget? : List Octets → Option Target
  | ['-'] :: _ => some .closed
  | [digit] :: _ => if digit.isDigit then some (.copy (Octets.digitValue digit)) else none
  | _ => none

/-- The descriptor that a redirection is about. -/
def Redirection.descriptor : Redirection → Nat
  | file descriptor _ _ => descriptor
  | copy descriptor _ => descriptor
  | document descriptor _ => descriptor

namespace Deed

/-- Opens a path: its handle. -/
def open_ (opening : Opening) (path : Octets) : Deed (Except FileFailure Nat) := do
  let s ← get
  let access : Access :=
    match opening with
    | .read => .read
    | .write => if s.has 'C' then .create else .write
    | .append => .append
    | .both => .both
    | .clobber => .write
  Act.open_ s.here (Octets.toText path) access

/-- Expands the words of redirections. -/
def targets (run : Run) : List Redirection → Deed (List (Nat × Target))
  | [] => return []
  | .file descriptor opening path :: rest => do
    let path ← text (substitution run) path
    return (descriptor, .file opening path) :: (← targets run rest)
  | .copy descriptor source :: rest => do
    match copyTarget? (← fields (substitution run) source) with
    | none =>
      modify fun s => { s with line := s.lineRead }
      fail "Syntax error: Bad fd number".toList
    | some target => return (descriptor, target) :: (← targets run rest)
  | .document descriptor body :: rest => do
    return (descriptor, .document body) :: (← targets run rest)

/-- The greatest text that is written into a pipe before anybody reads it. -/
def greatestPiped : Nat := 4096

/-- A process that writes a text and ends. -/
def writer (descriptors : List (Nat × Nat)) (text : Octets) : Process :=
  (do
    for signal in [1, 2, 3, 20] do
      Act.arrange signal .ignored
    Act.connect descriptors
    let _ ← Act.write 1 text
    return 0 : Act Nat) .ends

/-- Lets a descriptor stand for the source of a text. -/
def connectText (descriptor : Nat) (text : Octets) : Deed Unit := do
  let kept := (← get).descriptors
  let free ← spare
  let (source, sink) ← Act.pipe
  Act.connect ((free, source) :: (free + 1, sink) :: kept)
  if text.length ≤ greatestPiped then
    let _ ← Act.write (free + 1) text
  else
    let s ← get
    let _ ← Act.fork (s.letGo fun _ => writer [(1, sink)] text)
  connect descriptor source

/-- Makes redirections whose words are expanded, and tells whether all of them went well. -/
def redirectAll (run : Run) : List (Nat × Target) → Deed Bool
  | [] => return true
  | (descriptor, target) :: rest => do
    match target with
    | .file opening path =>
      match ← open_ opening path with
      | .ok handle =>
        connect descriptor handle
        redirectAll run rest
      | .error failure =>
        complain (openingComplaint opening path failure)
        return false
    | .copy source =>
      match (← get).descriptors.lookup source with
      | some handle =>
        connect descriptor handle
        redirectAll run rest
      | none =>
        complain (Octets.numeral source ++ ": Bad file descriptor".toList)
        return false
    | .closed =>
      disconnect descriptor
      redirectAll run rest
    | .document body =>
      connectText descriptor (← text (substitution run) body)
      redirectAll run rest

/-- What is kept of descriptors that are redirected, under spare descriptors. -/
def keep (changed : List Nat) : Deed (List (Nat × Nat)) := do
  let entries := (← get).descriptors.filter fun entry => changed.contains entry.1
  let first ← spare
  return entries.zipIdx.map fun (entry, i) => (first + i, entry.2)

/-- Makes redirections while something is done, which is told whether all of them went well and
where complaints went before. -/
def redirecting (run : Run) (redirections : List Redirection) (deed : Bool → Nat → Deed Unit) :
    Deed Unit := do
  if redirections.isEmpty then deed true 2
  else
    let found ← targets run redirections
    let before := (← get).descriptors
    let changed := redirections.map Redirection.descriptor
    let kept ← keep changed
    let complaints :=
      if changed.contains 2 then
        ((before.lookup 2).bind fun handle =>
          (kept.find? fun entry => entry.2 = handle).map (·.1)).getD 2
      else 2
    connectAll (kept ++ before)
    finally_ (do deed (← redirectAll run found) complaints) do
      let isKept (entry : Nat × Nat) : Bool := kept.any fun other => other.1 = entry.1
      connectAll (before.filter (fun entry => changed.contains entry.1) ++
        (← get).descriptors.filter fun entry => !changed.contains entry.1 && !isKept entry)

end Deed

end SyscallPolicy.Host.Shell
