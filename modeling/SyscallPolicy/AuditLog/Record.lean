import SyscallPolicy.Text.Words

/-!
# Records of system calls

The kernel logs a system call as a line with a mark and fields, such as

  audit: type=1326 ... pid=15 comm="sh" ... syscall=1 compat=0 ...

A line is a record for a set of processes when, after its first mark, it has a process
field with a number from the set and later a system call field.  A field is its label
and a run of digits, with no word character in front of the label and none behind the
digits, and at least one character stands between the mark and the process field.  The
system call that counts is the last one of the line, since what stands before it may be
free text; it must be an ASCII number of 32 bits, and if it is not, the line is no record.
-/

namespace SyscallPolicy.AuditLog

open Text (isDecimal isWord)

/-- What marks a line of the audit system. -/
def mark : List Char := ['a', 'u', 'd', 'i', 't', ':']

/-- The label of the field that holds a process number. -/
def processLabel : List Char := ['p', 'i', 'd', '=']

/-- The label of the field that holds a system call number. -/
def syscallLabel : List Char := ['s', 'y', 's', 'c', 'a', 'l', 'l', '=']

/-- What follows the first occurrence of a text. -/
def afterFirst? (text : List Char) : List Char → Option (List Char)
  | [] => none
  | c :: rest =>
    if text.isPrefixOf (c :: rest) then some ((c :: rest).drop text.length)
    else afterFirst? text rest

/-- Whether no word goes on here. -/
def endsWord : List Char → Bool
  | [] => true
  | c :: _ => !isWord c

/-- The digits of the field at the front, and what follows them. -/
def fieldAt? (label s : List Char) : Option (List Char × List Char) :=
  if label.isPrefixOf s then
    let digits := (s.drop label.length).takeWhile isDecimal
    let rest := (s.drop label.length).dropWhile isDecimal
    if digits ≠ [] ∧ endsWord rest then some (digits, rest) else none
  else none

/-- The fields with this label that begin after at least one character, in order; each
is given by its digits and what follows them. -/
def fields (label : List Char) : List Char → List (List Char × List Char)
  | [] => []
  | c :: rest =>
    match fieldAt? label rest with
    | some field => if isWord c then fields label rest else field :: fields label rest
    | none => fields label rest

/-- The digits of the system call that a line records for the processes. -/
def recordDigits? (processes : List (List Char)) (line : List Char) : Option (List Char) := do
  let body ← afterFirst? mark line
  let process ← (fields processLabel body).find? fun field => processes.contains field.1
  let call ← (fields syscallLabel process.2).getLast?
  return call.1

/-- The value of ASCII digits; `none` if there are others or it needs more than 32 bits. -/
def callNumber? (digits : List Char) : Option Nat :=
  if digits.all Char.isDigit then
    let value := digits.foldl (fun value c => value * 10 + (c.toNat - 0x30)) 0
    if value < UInt32.size then some value else none
  else none

/-- The decimal text of process numbers. -/
def processTexts (pids : List Int) : List (List Char) :=
  pids.map fun pid => (toString pid).toList

/-- The number of the system call that a line records for the processes. -/
def syscallId? (pids : List Int) (line : List Char) : Option Nat := do
  callNumber? (← recordDigits? (processTexts pids) line)

end SyscallPolicy.AuditLog
