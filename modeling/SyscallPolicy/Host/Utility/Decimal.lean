import SyscallPolicy.Host.Number

/-!
# Texts of fractions

A fraction is written with so many places, rounded so that a half goes to the even
neighbour: with a point in its place, with one digit in front of the point and an exponent,
or in the shorter of these ways.  In base sixteen there is always an exponent, of two.
-/

namespace SyscallPolicy.Host.Utility.Decimal

/-- The digits of a number in a base, with at least so many of them. -/
def digitsIn (base least n : Nat) : Octets :=
  let digits := Nat.toDigits base n
  List.replicate (least - digits.length) '0' ++ digits

/-- Digits with a point in front of the last so many of them; a point at the end goes away
if it is not kept. -/
def withPoint (keepsPoint : Bool) (places : Nat) (digits : Octets) : Octets :=
  let whole := digits.take (digits.length - places)
  if places = 0 && !keepsPoint then whole else whole ++ '.' :: digits.drop whole.length

/-- A fraction with so many places. -/
def fixed (keepsPoint : Bool) (places numerator denominator : Nat) : Octets :=
  withPoint keepsPoint places
    (digitsIn 10 (places + 1) (Magnitude.rounded (numerator * Nat.pow 10 places) denominator))

/-- The exponent of the greatest power of ten that is not above a fraction. -/
def exponent (numerator denominator : Nat) : Int :=
  let guess : Int := (Nat.toDigits 10 numerator).length - (Nat.toDigits 10 denominator).length
  if numerator * Nat.pow 10 (-guess).toNat < denominator * Nat.pow 10 guess.toNat then guess - 1
  else guess

/-- The digits of a fraction, one more than so many, and the exponent of the first one. -/
def significant (places numerator denominator : Nat) : Octets × Int :=
  if numerator = 0 then (List.replicate (places + 1) '0', 0)
  else
    let first := exponent numerator denominator
    let shift := (places : Int) - first
    let digits := Nat.toDigits 10 (Magnitude.rounded (numerator * Nat.pow 10 shift.toNat)
      (denominator * Nat.pow 10 (-shift).toNat))
    if digits.length = places + 1 then (digits, first) else (digits.take (places + 1), first + 1)

/-- An exponent with its sign and at least two digits. -/
def exponentText (n : Int) : Octets :=
  'e' :: (if n < 0 then '-' else '+') :: digitsIn 10 2 n.natAbs

/-- A fraction with an exponent. -/
def scientific (keepsPoint : Bool) (places numerator denominator : Nat) : Octets :=
  let (digits, first) := significant places numerator denominator
  withPoint keepsPoint places digits ++ exponentText first

/-- The text without zeros at its end behind a point, and without the point if it is last. -/
def withoutZeros (s : Octets) : Octets :=
  if s.contains '.' then
    let kept := (s.reverse.dropWhile (· == '0')).reverse
    if kept.getLast? = some '.' then kept.dropLast else kept
  else s

/-- A fraction with so many digits in all, with an exponent only if it is small or large. -/
def general (keepsZeros : Bool) (digits numerator denominator : Nat) : Octets :=
  let places := digits - 1
  let (found, first) := significant places numerator denominator
  let shorten (s : Octets) : Octets := if keepsZeros then s else withoutZeros s
  if -4 ≤ first && first ≤ (places : Int) then
    shorten (fixed keepsZeros ((places : Int) - first).toNat numerator denominator)
  else shorten (withPoint keepsZeros places found) ++ exponentText first

/-- The places that a machine keeps in base sixteen. -/
def keptPlaces : Nat := 13

/-- A fraction that a machine can keep, in base sixteen; with all places that it needs, or with
so many. -/
def hexadecimal (keepsPoint : Bool) (places? : Option Nat) (numerator denominator : Nat) :
    Octets :=
  let first := if numerator = 0 then 0
    else max (Magnitude.binaryExponent numerator denominator)
      (Magnitude.leastExponent + Magnitude.keptDigits)
  let up := numerator * Nat.pow 2 (-first).toNat
  let down := denominator * Nat.pow 2 first.toNat
  let places := places?.getD keptPlaces
  let digits := digitsIn 16 (places + 1) (Magnitude.rounded (up * Nat.pow 16 places) down)
  let digits := if places?.isSome then digits
    else digits.take 1 ++ ((digits.drop 1).reverse.dropWhile (· == '0')).reverse
  ['0', 'x'] ++ withPoint keepsPoint (digits.length - 1) digits ++
    'p' :: (if first < 0 then '-' else '+') :: Nat.toDigits 10 first.natAbs

end SyscallPolicy.Host.Utility.Decimal
