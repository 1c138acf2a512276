/-!
# Lengths of time

A duration counts whole seconds and, below a second, nanoseconds.  Its text names the
largest unit that reaches one and gives the rest as a decimal fraction without
trailing zeros: `60s`, `1.5s`, `15ms`, `2.25µs`, `0ns`.
-/

namespace SyscallPolicy

/-- A length of time of `secs` seconds and `nanos` nanoseconds. -/
structure Duration where
  secs : Nat
  nanos : Nat
  deriving DecidableEq, Repr

namespace Duration

/-- Nanoseconds in a second. -/
def nanosPerSecond : Nat := 1000000000

/-- A duration of any number of nanoseconds above whole seconds. -/
def ofParts (secs nanos : Nat) : Duration :=
  ⟨secs + nanos / nanosPerSecond, nanos % nanosPerSecond⟩

def ofSeconds (secs : Nat) : Duration :=
  ⟨secs, 0⟩

def ofMillis (millis : Nat) : Duration :=
  ⟨millis / 1000, millis % 1000 * 1000000⟩

/-- The duration in nanoseconds. -/
def toNanos (d : Duration) : Nat :=
  d.secs * nanosPerSecond + d.nanos

/-- A decimal fraction of `places` digits, without the zeros at its end and with no
point when nothing is left. -/
def fraction (part places : Nat) : List Char :=
  let digits := Nat.toDigits 10 part
  let padded := List.replicate (places - digits.length) '0' ++ digits
  match (padded.reverse.dropWhile (· == '0')).reverse with
  | [] => []
  | shown => '.' :: shown

/-- The number of units of `10 ^ places` parts each that `parts` makes, as decimal text. -/
def inUnits (parts places : Nat) : String :=
  toString (parts / Nat.pow 10 places) ++
    String.ofList (fraction (parts % Nat.pow 10 places) places)

/-- The text of a duration. -/
def render (d : Duration) : String :=
  if d.secs > 0 then inUnits d.toNanos 9 ++ "s"
  else if d.nanos ≥ 1000000 then inUnits d.nanos 6 ++ "ms"
  else if d.nanos ≥ 1000 then inUnits d.nanos 3 ++ "µs"
  else inUnits d.nanos 0 ++ "ns"

end Duration

end SyscallPolicy
