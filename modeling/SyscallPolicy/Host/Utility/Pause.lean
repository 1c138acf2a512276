import SyscallPolicy.Host.Number
import SyscallPolicy.Host.Utility.Basic
import SyscallPolicy.Host.Utility.Quoting

/-!
# Pausing

A pause is asked for in numbers with units: seconds, minutes, hours or days.  The sum of all
is the time.
-/

namespace SyscallPolicy.Host.Utility

/-- The seconds of a unit. -/
def unit? (s : Octets) : Option Nat :=
  match s with
  | [] => some 1
  | ['s'] => some 1
  | ['m'] => some 60
  | ['h'] => some 3600
  | ['d'] => some 86400
  | _ => none

/-- The nanoseconds that an argument asks for; the inner value is missing if there is no end. -/
def pauseNanos? (arg : Octets) : Option (Option Nat) := do
  let text := arg.dropWhile Octets.isSpace
  let (isNegative, text) := match text with
    | '-' :: rest => (true, rest)
    | '+' :: rest => (false, rest)
    | rest => (false, rest)
  let (number, rest) ← Magnitude.read text
  let unit ← unit? rest
  match number, isNegative with
  | .endless, false => return none
  | .fraction numerator denominator, _ =>
    if isNegative && 0 < numerator then none
    else return some ((numerator * unit * 1000000000 + denominator - 1) / denominator)
  | _, _ => none

/-- Waits as long as the arguments say in sum. -/
def sleep (call : Call) : Act Nat := do
  let table : OptionTable Char :=
    { words := [("help", .nothing, 'h'), ("version", .nothing, 'V')] }
  let a := call.arguments table
  match a.fault? with
  | some fault => call.tell (call.badUsage 1 fault.reason)
  | none =>
    if a.has 'h' || a.has 'V' then return 0
    else
      let bad := a.operands.filter fun arg => (pauseNanos? arg).isNone
      let faults := bad.flatMap fun arg =>
        call.complaint ("invalid time interval ".toList ++ inPlainQuotes arg)
      if a.operands.isEmpty then call.tell (call.badUsage 1 "missing operand".toList)
      else if !bad.isEmpty then call.tell (.saying 1 [] (faults ++ call.hint))
      else
        let times := a.operands.filterMap pauseNanos?
        Act.sleep (times.foldl (fun sum? time? => sum?.bind fun sum => time?.map (sum + ·))
          (some 0))
        return 0

end SyscallPolicy.Host.Utility
