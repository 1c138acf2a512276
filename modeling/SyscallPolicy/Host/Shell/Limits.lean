import SyscallPolicy.Host.Octets

/-!
# Limits of processes

A process may use only so much of some things.  For each of them there are two limits: the
soft one counts, and the hard one is as far as the soft one can be raised.  The hard one can
only be lowered.
-/

namespace SyscallPolicy.Host.Shell

/-- Something of which a process may use only so much. -/
structure Resource where
  /-- The letter that stands for it. -/
  letter : Char
  name : String
  /-- What one of the units stands for in which it is shown. -/
  unit : Nat
  soft : Option Nat := none
  hard : Option Nat := none
  deriving Repr

/-- The things of which a process may use only so much, with the limits at the beginning. -/
def Resource.standard : List Resource :=
  [{ letter := 't', name := "time(seconds)", unit := 1 },
   { letter := 'f', name := "file(blocks)", unit := 512 },
   { letter := 'd', name := "data(kbytes)", unit := 1024 },
   { letter := 's', name := "stack(kbytes)", unit := 1024, soft := some (8192 * 1024) },
   { letter := 'c', name := "coredump(blocks)", unit := 512, soft := some 0 },
   { letter := 'm', name := "memory(kbytes)", unit := 1024 },
   { letter := 'l', name := "locked memory(kbytes)", unit := 1024
     soft := some (8192 * 1024), hard := some (8192 * 1024) },
   { letter := 'p', name := "process", unit := 1, soft := some 127000, hard := some 127000 },
   { letter := 'n', name := "nofiles", unit := 1, soft := some 1048576, hard := some 1048576 },
   { letter := 'v', name := "vmemory(kbytes)", unit := 1024 },
   { letter := 'w', name := "locks", unit := 1 },
   { letter := 'r', name := "rtprio", unit := 1, soft := some 0, hard := some 0 }]

/-- Which of the two limits are meant. -/
structure Limits where
  soft : Bool := true
  hard : Bool := true

namespace Resource

/-- Whether one limit is above another. -/
def isAbove : Option Nat → Option Nat → Bool
  | _, none => false
  | none, some _ => true
  | some m, some n => n < m

/-- A limit as it is shown. -/
def shown (limits : Limits) (r : Resource) : Octets :=
  match if limits.soft then r.soft else r.hard with
  | some n => Octets.numeral (n / r.unit)
  | none => "unlimited".toList

/-- The resource with another limit, or why it cannot have that. -/
def limited (limits : Limits) (limit : Option Nat) (r : Resource) : Except String Resource :=
  let soft := if limits.soft then limit else r.soft
  let hard := if limits.hard then limit else r.hard
  if isAbove soft hard then .error "Invalid argument"
  else if isAbove hard r.hard then .error "Operation not permitted"
  else .ok { r with soft, hard }

/-- One more than the greatest limit; it stands for no limit when it is reached. -/
def bound : Nat := 18446744073709551615

/-- The limit that a text asks for, in units, if it makes sense. -/
def limit? (unit : Nat) (text : Octets) : Option (Option Nat) :=
  if text = "unlimited".toList then some none
  else if text.all Char.isDigit then
    let n := text.foldl (fun n c => n * 10 + Octets.digitValue c) 0 * unit % (bound + 1)
    some (if n = bound then none else some n)
  else none

/-- The table of all limits. -/
def table (limits : Limits) (resources : List Resource) : Octets :=
  resources.flatMap fun r =>
    r.name.toList ++ List.replicate (20 - r.name.length) ' ' ++ ' ' :: r.shown limits ++ ['\n']

end Resource

end SyscallPolicy.Host.Shell
