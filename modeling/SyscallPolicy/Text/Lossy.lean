/-!
# Text from bytes that may be damaged

Bytes are read as UTF-8.  Where they are not well formed, each longest piece that could
have been the beginning of a character is read as one replacement character, and a byte
that cannot begin a character is read as one by itself.  The reader is an automaton that
looks at each byte once: a byte that breaks off a character is looked at again as the
beginning of the next.
-/

namespace SyscallPolicy.Text

/-- What stands for damage. -/
def replacement : Char := '\uFFFD'

/-- Where a reader of UTF-8 is. -/
inductive Utf8State where
  /-- Between two characters. -/
  | start
  /-- Inside a character of which `missing` bytes are to come, the first of them between
  `low` and `high`; `value` is what the bytes so far amount to. -/
  | within (missing : Nat) (low high : UInt8) (value : Nat)
  deriving DecidableEq, Repr

/-- Reads a byte between two characters. -/
def firstByte (b : UInt8) : List Char × Utf8State :=
  if b < 0x80 then ([Char.ofNat b.toNat], .start)
  else if b < 0xC2 then ([replacement], .start)
  else if b < 0xE0 then ([], .within 1 0x80 0xBF (b.toNat - 0xC0))
  else if b = 0xE0 then ([], .within 2 0xA0 0xBF 0)
  else if b = 0xED then ([], .within 2 0x80 0x9F 13)
  else if b < 0xF0 then ([], .within 2 0x80 0xBF (b.toNat - 0xE0))
  else if b = 0xF0 then ([], .within 3 0x90 0xBF 0)
  else if b < 0xF4 then ([], .within 3 0x80 0xBF (b.toNat - 0xF0))
  else if b = 0xF4 then ([], .within 3 0x80 0x8F 4)
  else ([replacement], .start)

/-- Reads a byte: the characters that are complete with it, and where the reader is then. -/
def nextByte : Utf8State → UInt8 → List Char × Utf8State
  | .start, b => firstByte b
  | .within missing low high value, b =>
    if low ≤ b ∧ b ≤ high then
      let value := value * 0x40 + (b.toNat - 0x80)
      if missing = 1 then ([Char.ofNat value], .start)
      else ([], .within (missing - 1) 0x80 0xBF value)
    else (replacement :: (firstByte b).1, (firstByte b).2)

/-- Reads the remaining bytes. -/
def decodeFrom : Utf8State → List UInt8 → List Char
  | .start, [] => []
  | .within .., [] => [replacement]
  | state, b :: rest => (nextByte state b).1 ++ decodeFrom (nextByte state b).2 rest

/-- The text that bytes stand for, with damage replaced. -/
def decodeLossy (bytes : List UInt8) : List Char :=
  decodeFrom .start bytes

end SyscallPolicy.Text
