import SyscallPolicy.Text.Lossy

/-!
# Texts of a host

To a host a text is a row of bytes.  A byte is written here as the character with that
number, so ASCII texts look like themselves and every text has as many characters as
bytes.  Integers in texts follow one rule: blanks, a sign, and digits of a base.
-/

namespace SyscallPolicy.Host

/-- A text of the host: its bytes, each written as the character with that number. -/
abbrev Octets := List Char

namespace Octets

/-- The bytes as a text of the host. -/
def ofBytes (bytes : ByteArray) : Octets :=
  bytes.toList.map fun b => Char.ofNat b.toNat

/-- A string as a text of the host. -/
def ofString (s : String) : Octets :=
  ofBytes s.toUTF8

/-- The bytes of a text. -/
def bytes (s : Octets) : ByteArray :=
  ⟨(s.map fun c => c.toNat.toUInt8).toArray⟩

/-- The string that a text spells, with replacements where it spells none. -/
def toText (s : Octets) : String :=
  String.ofList (Text.decodeLossy (bytes s).toList)

/-- Cuts a text at each separator, which goes away. -/
def cut (separator : Char) : Octets → List Octets
  | [] => [[]]
  | c :: rest =>
    if c = separator then [] :: cut separator rest
    else
      match cut separator rest with
      | [] => [[c]]
      | part :: parts => (c :: part) :: parts

/-- The lines of a text; a line feed at its end opens no further one. -/
def lines (s : Octets) : List Octets :=
  match (cut '\n' s).reverse with
  | [] :: rest => rest.reverse
  | found => found.reverse

/-- Texts with a separator between them. -/
def join (separator : Octets) (parts : List Octets) : Octets :=
  (parts.intersperse separator).flatten

/-- Whether a character counts as white space. -/
def isSpace (c : Char) : Bool :=
  c == ' ' || (9 ≤ c.toNat && c.toNat ≤ 13)

/-- The text of a natural number. -/
def numeral (n : Nat) : Octets := (toString n).toList

/-- The text of an integer. -/
def signedNumeral (n : Int) : Octets := (toString n).toList

/-- The text of a natural number at the right of so many places. -/
def rightAligned (width n : Nat) : Octets :=
  let digits := numeral n
  List.replicate (width - digits.length) ' ' ++ digits

/-- The value of a decimal digit. -/
def digitValue (c : Char) : Nat := c.toNat - 0x30

/-- The value of a digit of a base up to sixteen. -/
def digitIn? (base : Nat) (c : Char) : Option Nat :=
  let value :=
    if c.isDigit then c.toNat - 0x30
    else if 'a' ≤ c && c ≤ 'f' then c.toNat - 0x61 + 10
    else if 'A' ≤ c && c ≤ 'F' then c.toNat - 0x41 + 10
    else 16
  if value < base then some value else none

/-- The value of the digits at the front of a text, if there is one, and what follows. -/
def readDigits (base : Nat) (s : Octets) : Option (Nat × Octets) :=
  let digits := s.takeWhile fun c => (digitIn? base c).isSome
  if digits.isEmpty then none
  else
    some (digits.foldl (fun n c => n * base + (digitIn? base c).getD 0) 0,
      s.drop digits.length)

/-- The natural number at the front of a text whose base is shown by how it begins: `0x` for
sixteen, `0b` for two, `0` for eight. -/
def readMarked (s : Octets) : Option (Nat × Octets) :=
  match s with
  | '0' :: 'b' :: rest => (readDigits 2 rest).or (some (0, 'b' :: rest))
  | '0' :: 'B' :: rest => (readDigits 2 rest).or (some (0, 'B' :: rest))
  | '0' :: 'x' :: rest => (readDigits 16 rest).or (some (0, 'x' :: rest))
  | '0' :: 'X' :: rest => (readDigits 16 rest).or (some (0, 'X' :: rest))
  | '0' :: _ => readDigits 8 s
  | _ => readDigits 10 s

/-- The integer at the front of a text, behind white space and a sign, and what follows. -/
def readInteger (readNatural : Octets → Option (Nat × Octets)) (s : Octets) :
    Option (Int × Octets) :=
  match s.dropWhile isSpace with
  | '-' :: rest => (readNatural rest).map fun (n, rest) => (-(n : Int), rest)
  | '+' :: rest => (readNatural rest).map fun (n, rest) => ((n : Int), rest)
  | rest => (readNatural rest).map fun (n, rest) => ((n : Int), rest)

/-- One more than the greatest integer of 64 bits. -/
def integerBound : Int := 9223372036854775808

/-- Whether an integer has a place in 64 bits. -/
def fitsInteger (n : Int) : Bool :=
  -integerBound ≤ n && n < integerBound

/-- The integer that a whole text is, in the decimal system and with white space around it. -/
def integer? (s : Octets) : Option Int :=
  match readInteger (readDigits 10) s with
  | some (n, rest) => if rest.all isSpace && fitsInteger n then some n else none
  | none => none

/-- The greatest number that counts and statuses may have. -/
def greatestCount : Int := 2147483647

/-- The count that a whole text is. -/
def count? (s : Octets) : Option Nat :=
  match integer? s with
  | some n => if 0 ≤ n && n ≤ greatestCount then some n.toNat else none
  | none => none

/-- Whether one text comes before another. -/
def before : Octets → Octets → Bool
  | [], [] => false
  | [], _ :: _ => true
  | _ :: _, [] => false
  | a :: s, b :: t => a < b || (a == b && before s t)

/-- Texts in order. -/
def sort (texts : List Octets) : List Octets :=
  texts.mergeSort fun s t => !before t s

end Octets

end SyscallPolicy.Host
