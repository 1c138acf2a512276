import SyscallPolicy.Host.Octets

/-!
# Signals of a host

Signals have numbers and names, and each does something to a process that makes no
arrangement of its own.  Number zero stands for no signal at all, or for the end of a
shell where actions are arranged.
-/

namespace SyscallPolicy.Host.Signal

/-- The names of the signals from number zero on. -/
def names : List String :=
  ["EXIT", "HUP", "INT", "QUIT", "ILL", "TRAP", "ABRT", "BUS", "FPE", "KILL", "USR1", "SEGV",
   "USR2", "PIPE", "ALRM", "TERM", "16", "CHLD", "CONT", "STOP", "TSTP", "TTIN", "TTOU",
   "URG", "XCPU", "XFSZ", "VTALRM", "PROF", "WINCH", "IO", "PWR", "SYS", "32", "33", "RTMIN",
   "RTMIN+1", "RTMIN+2", "RTMIN+3", "RTMIN+4", "RTMIN+5", "RTMIN+6", "RTMIN+7", "RTMIN+8",
   "RTMIN+9", "RTMIN+10", "RTMIN+11", "RTMIN+12", "RTMIN+13", "RTMIN+14", "RTMIN+15",
   "RTMAX-14", "RTMAX-13", "RTMAX-12", "RTMAX-11", "RTMAX-10", "RTMAX-9", "RTMAX-8",
   "RTMAX-7", "RTMAX-6", "RTMAX-5", "RTMAX-4", "RTMAX-3", "RTMAX-2", "RTMAX-1", "RTMAX"]

/-- One more than the greatest number. -/
def bound : Nat := 65

/-- What a signal does to a process that makes no arrangement for it. -/
inductive Reaction where
  | ends
  | stops
  | resumes
  | nothing
  deriving DecidableEq, Repr

/-- The reaction to the signal with a number. -/
def reaction (number : Nat) : Reaction :=
  if number = 0 ∨ number = 17 ∨ number = 23 ∨ number = 28 then .nothing
  else if number = 18 then .resumes
  else if 19 ≤ number ∧ number ≤ 22 then .stops
  else .ends

/-- Whether a process can make an arrangement for a signal. -/
def isTamable (number : Nat) : Bool :=
  number != 9 && number != 19

/-- How the end by a signal is told, from number one on. -/
def descriptions : List String :=
  ["Hangup", "Interrupt", "Quit", "Illegal instruction", "Trace/breakpoint trap", "Aborted",
   "Bus error", "Floating point exception", "Killed", "User defined signal 1",
   "Segmentation fault", "User defined signal 2", "Broken pipe", "Alarm clock", "Terminated",
   "Stack fault", "Child exited", "Continued", "Stopped (signal)", "Stopped",
   "Stopped (tty input)", "Stopped (tty output)", "Urgent I/O condition",
   "CPU time limit exceeded", "File size limit exceeded", "Virtual timer expired",
   "Profiling timer expired", "Window changed", "I/O possible", "Power failure",
   "Bad system call", "Unknown signal 32", "Unknown signal 33"]

/-- How the end by the signal with a number is told. -/
def description (number : Nat) : Octets :=
  match descriptions[number - 1]? with
  | some text => text.toList
  | none => "Real-time signal ".toList ++ Octets.numeral (number - 34)

/-- The number of the signal from the keyboard that ends a process. -/
def interrupt : Nat := 2

/-- The number of the signal that breaks a pipe. -/
def brokenPipe : Nat := 13

/-- The number of the signal for arithmetic that makes no sense. -/
def badArithmetic : Nat := 8

/-- The number of the signal that a child has ended. -/
def childEnded : Nat := 17

/-- The number of the signal that makes a stopped process go on. -/
def continuing : Nat := 18

/-- The number of the signal for a process that has worked for too long. -/
def overtime : Nat := 24

/-- The number of the signal that asks a process to end. -/
def termination : Nat := 15

/-- The name of the signal with a number. -/
def name (number : Nat) : Octets :=
  (names[number]?.getD "").toList

/-- The signal that a text stands for, by its number or by its name in letters of either
case.  Names count from `least` on. -/
def decode? (least : Nat) (text : Octets) : Option Nat :=
  if !text.isEmpty && text.all Char.isDigit then
    let number := text.foldl (fun n c => n * 10 + Octets.digitValue c) 0
    if number < bound then some number else none
  else
    match names.idxOf? (String.ofList (text.map Char.toUpper)) with
    | some number => if least ≤ number then some number else none
    | none => none

end SyscallPolicy.Host.Signal
