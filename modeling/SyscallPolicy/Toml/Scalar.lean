import SyscallPolicy.Toml.Value

/-!
# Numbers and moments of TOML

A number, a word such as `true`, and a moment in time are each a run of characters that
are letters, digits, signs, points, colons or underscores.  What such a run stands for is
decided on the run as a whole.
-/

namespace SyscallPolicy.Toml.Scalar

/-- Whether a character may stand in a scalar. -/
def isScalarChar (c : Char) : Bool :=
  c.isAlphanum || c == '+' || c == '-' || c == '.' || c == ':' || c == '_'

/-- The digits of a literal, in which single underscores may stand between digits. -/
def digits? (isDigit : Char → Bool) : List Char → Option (List Char)
  | [] => none
  | [c] => if isDigit c then some [c] else none
  | c :: '_' :: rest => if isDigit c then (digits? isDigit rest).map (c :: ·) else none
  | c :: rest => if isDigit c then (digits? isDigit rest).map (c :: ·) else none

/-- The value of a digit in any base up to sixteen. -/
def digitValue (c : Char) : Nat :=
  if c.isDigit then c.toNat - 0x30
  else if c.isLower then c.toNat - 0x61 + 10
  else c.toNat - 0x41 + 10

/-- The number that digits give in a base. -/
def ofDigits (base : Nat) (digits : List Char) : Nat :=
  digits.foldl (fun value c => value * base + digitValue c) 0

/-- Whether a character is a hexadecimal digit. -/
def isHexDigit (c : Char) : Bool :=
  c.isDigit || ('a' ≤ c && c ≤ 'f') || ('A' ≤ c && c ≤ 'F')

/-- Whether a character is an octal digit. -/
def isOctDigit (c : Char) : Bool :=
  '0' ≤ c && c ≤ '7'

/-- Whether a character is a binary digit. -/
def isBinDigit (c : Char) : Bool :=
  c == '0' || c == '1'

/-- The number of integers from zero on that 64 bits can hold beside as many negative ones. -/
def integerBound : Int := 9223372036854775808

/-- An integer, if it is one of 64 bits. -/
def inRange (value : Int) : Option Int :=
  if -integerBound ≤ value ∧ value < integerBound then some value else none

/-- Splits off a sign: whether it is a minus, and what follows. -/
def sign : List Char → Bool × List Char
  | '+' :: rest => (false, rest)
  | '-' :: rest => (true, rest)
  | s => (false, s)

/-- The digits of a decimal integer without sign: no zero stands in front. -/
def decimalDigits? : List Char → Option (List Char)
  | ['0'] => some ['0']
  | '0' :: _ => none
  | s => digits? Char.isDigit s

/-- The integer that a whole run stands for. -/
def integer? : List Char → Option Int
  | '0' :: 'x' :: rest => do inRange (ofDigits 16 (← digits? isHexDigit rest))
  | '0' :: 'o' :: rest => do inRange (ofDigits 8 (← digits? isOctDigit rest))
  | '0' :: 'b' :: rest => do inRange (ofDigits 2 (← digits? isBinDigit rest))
  | s => do
    let value := ofDigits 10 (← decimalDigits? (sign s).2)
    inRange (if (sign s).1 then -(value : Int) else value)

/-- Whether digits times a power of ten are beyond the largest binary64 number, by at
least half a unit in its last place. -/
def overflows (digits : List Char) (exponent : Int) : Bool :=
  let value := ofDigits 10 digits
  let limit := Nat.pow 2 1024 - Nat.pow 2 970
  let places := (Nat.toDigits 10 value).length
  if value = 0 then false
  else if exponent + places > 400 then true
  else if exponent + places < 0 then false
  else if 0 ≤ exponent then limit ≤ value * Nat.pow 10 exponent.toNat
  else limit * Nat.pow 10 (-exponent).toNat ≤ value

/-- The exponent of a float: a letter, a sign and digits. -/
def exponent? : List Char → Option Int
  | [] => none
  | _ :: rest => do
    let value := ofDigits 10 (← digits? Char.isDigit (sign rest).2)
    return if (sign rest).1 then -(value : Int) else value

/-- Whether a character opens an exponent. -/
def isExponentMark (c : Char) : Bool :=
  c == 'e' || c == 'E'

/-- Whether a whole run is a float.  It has a fraction or an exponent, and a positive one
is not too large for a binary64 number. -/
def isFloat (s : List Char) : Bool :=
  let (negative, body) := sign s
  if body = ['i', 'n', 'f'] ∨ body = ['n', 'a', 'n'] then true
  else
    let mantissa := body.takeWhile fun c => !isExponentMark c
    let power := body.dropWhile fun c => !isExponentMark c
    let whole := mantissa.takeWhile (· != '.')
    let fraction := mantissa.dropWhile (· != '.')
    match decimalDigits? whole, fraction, power with
    | some _, [], [] => false
    | some whole, [], power =>
      match exponent? power with
      | some exponent => negative || !overflows whole exponent
      | none => false
    | some whole, _ :: fraction, power =>
      match digits? Char.isDigit fraction, if power = [] then some 0 else exponent? power with
      | some fraction, some exponent =>
        negative || !overflows (whole ++ fraction) (exponent - fraction.length)
      | _, _ => false
    | none, _, _ => false

/-- The number that exactly two digits give. -/
def two? : List Char → Option Nat
  | [a, b] => if a.isDigit && b.isDigit then some (ofDigits 10 [a, b]) else none
  | _ => none

/-- The number of days of a month. -/
def daysIn (year month : Nat) : Nat :=
  if month = 2 then
    if year % 4 = 0 ∧ (year % 100 ≠ 0 ∨ year % 400 = 0) then 29 else 28
  else if month = 4 ∨ month = 6 ∨ month = 9 ∨ month = 11 then 30
  else 31

/-- Whether a whole run is a date. -/
def isDate : List Char → Bool
  | [a, b, c, d, '-', e, f, '-', g, h] =>
    match two? [a, b], two? [c, d], two? [e, f], two? [g, h] with
    | some century, some year, some month, some day =>
      1 ≤ month && month ≤ 12 && 1 ≤ day && day ≤ daysIn (century * 100 + year) month
    | _, _, _, _ => false
  | _ => false

/-- Whether a run is hours and minutes. -/
def isHourMinute : List Char → Bool
  | [a, b, ':', c, d] =>
    match two? [a, b], two? [c, d] with
    | some hour, some minute => hour ≤ 23 && minute ≤ 59
    | _, _ => false
  | _ => false

/-- Whether a run is nothing, or a point and digits. -/
def isSecondFraction : List Char → Bool
  | [] => true
  | '.' :: rest => !rest.isEmpty && rest.all Char.isDigit
  | _ => false

/-- Whether a whole run is a time of the day. -/
def isTime (s : List Char) : Bool :=
  isHourMinute (s.take 5) &&
    match s.drop 5 with
    | ':' :: a :: b :: rest => (two? [a, b]).any (· ≤ 60) && isSecondFraction rest
    | _ => false

/-- Whether a whole run is an offset from universal time. -/
def isOffset : List Char → Bool
  | [] => true
  | ['Z'] => true
  | ['z'] => true
  | '+' :: rest => isHourMinute rest
  | '-' :: rest => isHourMinute rest
  | _ => false

/-- Whether a character opens an offset. -/
def isOffsetMark (c : Char) : Bool :=
  c == 'Z' || c == 'z' || c == '+' || c == '-'

/-- Whether a whole run is a time with an offset or without. -/
def isZonedTime (s : List Char) : Bool :=
  isTime (s.takeWhile fun c => !isOffsetMark c) && isOffset (s.dropWhile fun c => !isOffsetMark c)

/-- Whether a whole run is a moment: a date, a time, or both with a `T` between them. -/
def isMoment (s : List Char) : Bool :=
  isDate s || isTime s ||
    (isDate (s.take 10) &&
      match s.drop 10 with
      | c :: rest => (c == 'T' || c == 't') && isZonedTime rest
      | [] => false)

/-- What a whole run stands for. -/
def ofRun? (s : List Char) : Option Toml :=
  if s = ['t', 'r', 'u', 'e'] then some (.boolean true)
  else if s = ['f', 'a', 'l', 's', 'e'] then some (.boolean false)
  else if isMoment s then some .moment
  else if isFloat s then some .float
  else (integer? s).map .integer

/-- Reads a number, a word or a moment.  A date may be followed by one space and a time. -/
def scalar (s : List Char) : Option (Toml × List Char) :=
  let run := s.takeWhile isScalarChar
  let rest := s.dropWhile isScalarChar
  if isDate run then
    match rest with
    | ' ' :: more =>
      if more.takeWhile isScalarChar = [] then some (.moment, rest)
      else if isZonedTime (more.takeWhile isScalarChar) then
        some (.moment, more.dropWhile isScalarChar)
      else none
    | _ => some (.moment, rest)
  else (ofRun? run).map fun value => (value, rest)

end SyscallPolicy.Toml.Scalar
