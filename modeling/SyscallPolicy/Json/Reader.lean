import SyscallPolicy.Json.Value

/-!
# Reading JSON

The reader accepts a JSON text with nothing but blanks around its one value.  Blanks are
the space, the tab, the line feed and the carriage return.  Each function takes the rest
of the text and returns what it read together with the new rest.  Values nest without
a limit; the fuel of the nested functions is spent once a step, and `value` is given more
than any text of that length can spend.
-/

namespace SyscallPolicy.Json

/-- Whether a character may stand between tokens. -/
def isBlank (c : Char) : Bool :=
  c == ' ' || c == '\t' || c == '\n' || c == '\r'

/-- The text without the blanks at its front. -/
def skipBlanks (s : List Char) : List Char :=
  s.dropWhile isBlank

/-- The value of a hexadecimal digit of either case. -/
def hexValue? (c : Char) : Option Nat :=
  if '0' ≤ c ∧ c ≤ '9' then some (c.toNat - 0x30)
  else if 'a' ≤ c ∧ c ≤ 'f' then some (c.toNat - 0x61 + 10)
  else if 'A' ≤ c ∧ c ≤ 'F' then some (c.toNat - 0x41 + 10)
  else none

/-- The code unit that four hexadecimal digits give. -/
def unit? (a b c d : Char) : Option Nat := do
  let a ← hexValue? a
  let b ← hexValue? b
  let c ← hexValue? c
  let d ← hexValue? d
  return ((a * 16 + b) * 16 + c) * 16 + d

/-- The character that a backslash and this letter stand for. -/
def shortEscape? (c : Char) : Option Char :=
  if c = '"' then some '"'
  else if c = '\\' then some '\\'
  else if c = '/' then some '/'
  else if c = 'b' then some '\x08'
  else if c = 'f' then some '\x0c'
  else if c = 'n' then some '\n'
  else if c = 'r' then some '\r'
  else if c = 't' then some '\t'
  else none

/-- Whether a character stands for itself in a string. -/
def isPlain (c : Char) : Bool :=
  c ≠ '"' && c ≠ '\\' && ' ' ≤ c

/-- Reads the symbols of a string and the quote that closes it. -/
def symbols : List Char → Option (List Symbol × List Char)
  | [] => none
  | '\\' :: 'u' :: a :: b :: c :: d :: rest =>
    match unit? a b c d, symbols rest with
    | some unit, some (read, rest) => some (Symbol.ofUnit unit :: read, rest)
    | _, _ => none
  | '\\' :: c :: rest =>
    match shortEscape? c, symbols rest with
    | some c, some (read, rest) => some (.char c :: read, rest)
    | _, _ => none
  | c :: rest =>
    if c = '"' then some ([], rest)
    else if isPlain c then (symbols rest).map fun (read, rest) => (.char c :: read, rest)
    else none

/-- Splits off the digits at the front; there must be one. -/
def digits? (s : List Char) : Option (List Char × List Char) :=
  match s.takeWhile Char.isDigit with
  | [] => none
  | found => some (found, s.dropWhile Char.isDigit)

/-- Reads the integer part of a number: a zero alone, or digits that begin with another. -/
def integer? : List Char → Option (List Char × List Char)
  | '0' :: rest => some (['0'], rest)
  | s => digits? s

/-- Reads the fraction of a number, if one follows. -/
def fraction? : List Char → Option (List Char × List Char)
  | '.' :: rest => (digits? rest).map fun (found, rest) => ('.' :: found, rest)
  | s => some ([], s)

/-- Reads the sign of an exponent, if one follows. -/
def exponentSign : List Char → List Char × List Char
  | '+' :: rest => (['+'], rest)
  | '-' :: rest => (['-'], rest)
  | s => ([], s)

/-- Reads the exponent of a number, if one follows. -/
def exponent? : List Char → Option (List Char × List Char)
  | [] => some ([], [])
  | c :: rest =>
    if c = 'e' ∨ c = 'E' then
      let (sign, rest) := exponentSign rest
      (digits? rest).map fun (found, rest) => (c :: sign ++ found, rest)
    else some ([], c :: rest)

/-- Reads a number without a sign. -/
def unsigned? (s : List Char) : Option (List Char × List Char) := do
  let (whole, s) ← integer? s
  let (fraction, s) ← fraction? s
  let (exponent, s) ← exponent? s
  return (whole ++ fraction ++ exponent, s)

/-- Reads a number. -/
def number? : List Char → Option (List Char × List Char)
  | '-' :: rest => (unsigned? rest).map fun (found, rest) => ('-' :: found, rest)
  | s => unsigned? s

/-- Reads a word or a number. -/
def scalar? : List Char → Option (Json × List Char)
  | 'n' :: 'u' :: 'l' :: 'l' :: rest => some (.null, rest)
  | 't' :: 'r' :: 'u' :: 'e' :: rest => some (.bool true, rest)
  | 'f' :: 'a' :: 'l' :: 's' :: 'e' :: rest => some (.bool false, rest)
  | s => (number? s).map fun (literal, rest) => (.number literal, rest)

/-- Reads the key of a member, the colon, and the blanks up to the value. -/
def key? : List Char → Option (List Symbol × List Char)
  | '"' :: rest => do
    let (key, rest) ← symbols rest
    match skipBlanks rest with
    | ':' :: rest => some (key, skipBlanks rest)
    | _ => none
  | _ => none

mutual

/-- Reads a value. -/
def value : Nat → List Char → Option (Json × List Char)
  | 0, _ => none
  | _ + 1, '"' :: rest => (symbols rest).map fun (read, rest) => (.string read, rest)
  | fuel + 1, '[' :: rest =>
    match skipBlanks rest with
    | ']' :: rest => some (.array [], rest)
    | rest => (items fuel rest).map fun (found, rest) => (.array found, rest)
  | fuel + 1, '\x7b' :: rest =>
    match skipBlanks rest with
    | '\x7d' :: rest => some (.object [], rest)
    | rest => (members fuel rest).map fun (found, rest) => (.object found, rest)
  | _ + 1, s => scalar? s

/-- Reads one item of an array or more, and the bracket that closes it. -/
def items : Nat → List Char → Option (List Json × List Char)
  | 0, _ => none
  | fuel + 1, s => do
    let (item, rest) ← value fuel s
    match skipBlanks rest with
    | ']' :: rest => some ([item], rest)
    | ',' :: rest =>
      let (found, rest) ← items fuel (skipBlanks rest)
      some (item :: found, rest)
    | _ => none

/-- Reads one member of an object or more, and the brace that closes it. -/
def members : Nat → List Char → Option (List (List Symbol × Json) × List Char)
  | 0, _ => none
  | fuel + 1, s => do
    let (key, rest) ← key? s
    let (item, rest) ← value fuel rest
    match skipBlanks rest with
    | '\x7d' :: rest => some ([(key, item)], rest)
    | ',' :: rest =>
      let (found, rest) ← members fuel (skipBlanks rest)
      some ((key, item) :: found, rest)
    | _ => none

end

/-- The value that a text stands for. -/
def read? (s : List Char) : Option Json :=
  match value (2 * s.length + 2) (skipBlanks s) with
  | some (found, rest) => if skipBlanks rest = [] then some found else none
  | none => none

end SyscallPolicy.Json
