import SyscallPolicy.AuditLog.Record

/-!
# Where the fields of a line are

The fields of a line by their places, with no word on how to look for them.  A place is
the number of characters in front of it.  `IsRecord` says which line is a record for which
processes, and with which digits.
-/

namespace SyscallPolicy.AuditLog

open Text (isDecimal isWord)

/-- Whether a text stands in a line at this place. -/
def StandsAt (line text : List Char) (place : Nat) : Prop :=
  ∃ before after, line = before ++ text ++ after ∧ before.length = place

/-- Whether the first occurrence of a text in a line is at this place. -/
def StandsFirstAt (line text : List Char) (place : Nat) : Prop :=
  StandsAt line text place ∧ ∀ earlier < place, ¬ StandsAt line text earlier

/-- Whether a label and what it labels stand at this place, with something that is no
word character in front of them, and no word character behind them. -/
def LabelledAt (line label content : List Char) (place : Nat) : Prop :=
  ∃ before after, line = before ++ label ++ content ++ after ∧ before.length = place ∧
    (∃ c ∈ before.getLast?, isWord c = false) ∧ ∀ c ∈ after.head?, isWord c = false

/-- Whether the field of a system call with these digits is at this place. -/
def SyscallAt (line digits : List Char) (place : Nat) : Prop :=
  LabelledAt line syscallLabel digits place ∧ digits ≠ [] ∧ ∀ c ∈ digits, isDecimal c = true

/-- Whether the last field of a system call in a line has these digits and is at this
place. -/
def LastSyscallAt (line digits : List Char) (place : Nat) : Prop :=
  SyscallAt line digits place ∧ ∀ other later, SyscallAt line other later → later ≤ place

/-- Whether the field of a process is at this place, at least one character behind the
first mark of the line. -/
def ProcessAt (line process : List Char) (place : Nat) : Prop :=
  LabelledAt line processLabel process place ∧
    ∃ marked, StandsFirstAt line mark marked ∧ marked + mark.length < place

/-- Whether a line records a system call with these digits for one of the processes: its
last system call is at least one character behind the field of the process. -/
def IsRecord (processes : List (List Char)) (line digits : List Char) : Prop :=
  ∃ process ∈ processes, ∃ i j, ProcessAt line process i ∧ LastSyscallAt line digits j ∧
    i + processLabel.length + process.length < j

end SyscallPolicy.AuditLog
