import SyscallPolicy.Host.Octets

/-!
# Numbers with fractions

A number in a text has a sign and digits with a point, in the decimal system or in that of
base sixteen, and maybe an exponent; or it is a word for what has no end or is no number.
Read exactly, it is a fraction.  What a machine keeps of it is the nearest number that has
53 binary digits and an exponent of its own.
-/

namespace SyscallPolicy.Host

/-- A number without a sign. -/
inductive Magnitude where
  | fraction (numerator denominator : Nat)
  | endless
  /-- No number at all. -/
  | undefined
  deriving DecidableEq, Repr

namespace Magnitude

/-- Nothing. -/
def zero : Magnitude := fraction 0 1

/-- Digits with a point in between as a number over a power of the base, and what follows. -/
def readFraction (base : Nat) (s : Octets) : Option (Nat × Nat × Octets) :=
  let isDigit (c : Char) : Bool := (Octets.digitIn? base c).isSome
  let whole := s.takeWhile isDigit
  let rest := s.drop whole.length
  let (places, rest) :=
    match rest with
    | '.' :: rest => (rest.takeWhile isDigit, rest.dropWhile isDigit)
    | _ => ([], rest)
  match Octets.readDigits base (whole ++ places) with
  | some (value, _) => some (value, places.length, rest)
  | none => none

/-- The exponent behind one of two letters, if there is one, and what follows. -/
def readExponent (low high : Char) (s : Octets) : Int × Octets :=
  match s with
  | c :: '-' :: rest =>
    if c = low ∨ c = high then
      ((Octets.readDigits 10 rest).map fun (n, rest) => (-(n : Int), rest)).getD (0, s)
    else (0, s)
  | c :: rest =>
    if c = low ∨ c = high then
      let rest := if rest.head? = some '+' then rest.drop 1 else rest
      ((Octets.readDigits 10 rest).map fun (n, rest) => ((n : Int), rest)).getD (0, s)
    else (0, s)
  | [] => (0, s)

/-- An exponent beyond which numbers are too large or too small for any use, in any base. -/
def greatestExponent : Nat := 5000

/-- A value of so many digits times a power of a base. -/
def scaled (value base : Nat) (exponent : Int) : Magnitude :=
  if value = 0 then zero
  else if 0 ≤ exponent then
    if greatestExponent < exponent.toNat then .endless
    else .fraction (value * Nat.pow base exponent.toNat) 1
  else .fraction value (Nat.pow base (min exponent.natAbs (greatestExponent + value.log2)))

/-- The number at the front of a text, without a sign, and what follows. -/
def read (s : Octets) : Option (Magnitude × Octets) :=
  let lower := s.map Char.toLower
  if "infinity".toList.isPrefixOf lower then some (.endless, s.drop 8)
  else if "inf".toList.isPrefixOf lower then some (.endless, s.drop 3)
  else if "nan".toList.isPrefixOf lower then
    let isTag (c : Char) : Bool := c.isAlphanum || c == '_'
    match s.drop 3 with
    | '(' :: rest =>
      match rest.dropWhile isTag with
      | ')' :: rest => some (.undefined, rest)
      | _ => some (.undefined, s.drop 3)
    | rest => some (.undefined, rest)
  else
    let hex : Option (Magnitude × Octets) :=
      if ['0', 'x'].isPrefixOf lower then
        (readFraction 16 (s.drop 2)).map fun (value, places, rest) =>
          let (exponent, rest) := readExponent 'p' 'P' rest
          (scaled value 2 (exponent - 4 * (places : Int)), rest)
      else none
    hex.or ((readFraction 10 s).map fun (value, places, rest) =>
      let (exponent, rest) := readExponent 'e' 'E' rest
      (scaled value 10 (exponent - (places : Int)), rest))

/-- A quotient rounded to a natural number; a half goes to the even neighbour. -/
def rounded (numerator denominator : Nat) : Nat :=
  let floor := numerator / denominator
  let rest := 2 * (numerator % denominator)
  if denominator < rest || (rest = denominator && floor % 2 = 1) then floor + 1 else floor

/-- The exponent of the greatest power of two that is not above a fraction. -/
def binaryExponent (numerator denominator : Nat) : Int :=
  let guess : Int := (numerator.log2 : Int) - denominator.log2
  if numerator * Nat.pow 2 (-guess).toNat < denominator * Nat.pow 2 guess.toNat then guess - 1
  else guess

/-- How many binary digits a machine keeps, besides the first one. -/
def keptDigits : Int := 52

/-- The exponent of the least digit that a machine can keep. -/
def leastExponent : Int := -1074

/-- One more than the exponent of the greatest digit that a machine can keep. -/
def exponentBound : Nat := 1024

/-- What a machine keeps of a number, and whether it has left the range in which all digits
are kept. -/
def nearest : Magnitude → Magnitude × Bool
  | fraction 0 _ => (zero, false)
  | fraction numerator denominator =>
    let first := binaryExponent numerator denominator
    let last := max (first - keptDigits) leastExponent
    let up := Nat.pow 2 last.toNat
    let down := Nat.pow 2 (-last).toNat
    let digits := rounded (numerator * down) (denominator * up)
    let isExact := digits * denominator * up = numerator * down
    let isSmall := first - keptDigits < leastExponent
    if Nat.pow 2 exponentBound ≤ digits * up / down then (.endless, true)
    else (.fraction (digits * up) down, isSmall && !isExact)
  | n => (n, false)

end Magnitude

end SyscallPolicy.Host
