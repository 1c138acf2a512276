/-!
# The words of TOML

Blanks, comments, line ends, strings and keys.  Each function takes the rest of a text
and returns what it read together with the new rest.  A control character other than the
tab stands nowhere, and a carriage return only in front of a line feed.
-/

namespace SyscallPolicy.Toml.Lexeme

/-- Whether a character is a blank. -/
def isBlank (c : Char) : Bool :=
  c == ' ' || c == '\t'

/-- Whether a character may stand inside a line. -/
def isText (c : Char) : Bool :=
  c == '\t' || (' ' ≤ c && c ≠ '\x7f')

/-- The text without the blanks at its front. -/
def skipBlanks (s : List Char) : List Char :=
  s.dropWhile isBlank

/-- What follows the line end at the front. -/
def lineFeed? : List Char → Option (List Char)
  | '\n' :: rest => some rest
  | '\r' :: '\n' :: rest => some rest
  | _ => none

/-- The text without the comment at its front, if there is one. -/
def skipComment : List Char → List Char
  | '#' :: rest => rest.dropWhile isText
  | s => s

/-- What follows the rest of a line that holds nothing but blanks and a comment. -/
def endOfLine? (s : List Char) : Option (List Char) :=
  match skipComment (skipBlanks s) with
  | [] => some []
  | rest => lineFeed? rest

/-- The text without the blanks and the line ends at its front. -/
def skipLines : List Char → List Char
  | '\r' :: '\n' :: rest => skipLines rest
  | c :: rest => if isBlank c || c == '\n' then skipLines rest else c :: rest
  | [] => []

/-- The value of a hexadecimal digit of either case. -/
def hexValue? (c : Char) : Option Nat :=
  if '0' ≤ c ∧ c ≤ '9' then some (c.toNat - 0x30)
  else if 'a' ≤ c ∧ c ≤ 'f' then some (c.toNat - 0x61 + 10)
  else if 'A' ≤ c ∧ c ≤ 'F' then some (c.toNat - 0x41 + 10)
  else none

/-- The character with the number that hexadecimal digits give. -/
def scalar? (digits : List Char) : Option Char := do
  let value ← digits.foldlM (fun value c => (hexValue? c).map (value * 16 + ·)) 0
  if value < 0xD800 ∨ (0xE000 ≤ value ∧ value < 0x110000) then some (Char.ofNat value) else none

/-- The character that a backslash and this letter stand for. -/
def shortEscape? (c : Char) : Option Char :=
  if c = 'b' then some '\x08'
  else if c = 't' then some '\t'
  else if c = 'n' then some '\n'
  else if c = 'f' then some '\x0c'
  else if c = 'r' then some '\r'
  else if c = '"' then some '"'
  else if c = '\\' then some '\\'
  else none

/-- Reads what follows the backslash of an escaped character. -/
def escape? : List Char → Option (Char × List Char)
  | [] => none
  | c :: rest =>
    if c = 'u' then
      if rest.length < 4 then none else (scalar? (rest.take 4)).map fun c => (c, rest.drop 4)
    else if c = 'U' then
      if rest.length < 8 then none else (scalar? (rest.take 8)).map fun c => (c, rest.drop 8)
    else (shortEscape? c).map fun c => (c, rest)

/-- Puts a character in front of what was read. -/
def push (c : Char) : List Char × List Char → List Char × List Char
  | (read, rest) => (c :: read, rest)

/-- Reads a basic string after its opening quote. -/
def basic : Nat → List Char → Option (List Char × List Char)
  | 0, _ => none
  | _, [] => none
  | fuel + 1, c :: rest =>
    if c = '"' then some ([], rest)
    else if c = '\\' then
      match escape? rest with
      | some (c, rest) => (basic fuel rest).map (push c)
      | none => none
    else if isText c then (basic fuel rest).map (push c)
    else none

/-- Reads a literal string after its opening quote. -/
def literal : List Char → Option (List Char × List Char)
  | [] => none
  | c :: rest =>
    if c = '\'' then some ([], rest)
    else if isText c then (literal rest).map (push c)
    else none

/-- Reads the end of a string of several lines: three quotes, of which up to two more in
front belong to the string. -/
def closing? (quote : Char) (s : List Char) : Option (List Char × List Char) :=
  let quotes := (s.takeWhile (· == quote)).length
  if quotes < 3 then none
  else
    let inside := min (quotes - 3) 2
    some (List.replicate inside quote, s.drop (inside + 3))

/-- Reads the rest of a basic string of several lines.  A backslash at the end of a line
takes the line end and all blank space that follows with it. -/
def basicLines : Nat → List Char → Option (List Char × List Char)
  | 0, _ => none
  | _, [] => none
  | fuel + 1, c :: rest =>
    match closing? '"' (c :: rest), lineFeed? (c :: rest) with
    | some closed, _ => some closed
    | none, some rest => (basicLines fuel rest).map (push '\n')
    | none, none =>
      if c = '\\' then
        match escape? rest, lineFeed? (skipBlanks rest) with
        | some (c, rest), _ => (basicLines fuel rest).map (push c)
        | none, some rest => basicLines fuel (skipLines rest)
        | none, none => none
      else if isText c then (basicLines fuel rest).map (push c)
      else none

/-- Reads the rest of a literal string of several lines. -/
def literalLines : Nat → List Char → Option (List Char × List Char)
  | 0, _ => none
  | _, [] => none
  | fuel + 1, c :: rest =>
    match closing? '\'' (c :: rest), lineFeed? (c :: rest) with
    | some closed, _ => some closed
    | none, some rest => (literalLines fuel rest).map (push '\n')
    | none, none => if isText c then (literalLines fuel rest).map (push c) else none

/-- The text without one line end at its front, if there is one. -/
def skipLineFeed (s : List Char) : List Char :=
  (lineFeed? s).getD s

/-- Reads a string of any kind. -/
def string : List Char → Option (List Char × List Char)
  | '"' :: '"' :: '"' :: rest => basicLines (rest.length + 1) (skipLineFeed rest)
  | '"' :: rest => basic (rest.length + 1) rest
  | '\'' :: '\'' :: '\'' :: rest => literalLines (rest.length + 1) (skipLineFeed rest)
  | '\'' :: rest => literal rest
  | _ => none

/-- Whether a character may stand in a key without quotes. -/
def isBare (c : Char) : Bool :=
  c.isAlphanum || c == '_' || c == '-'

/-- Reads one part of a key. -/
def simpleKey : List Char → Option (List Char × List Char)
  | '"' :: rest => basic (rest.length + 1) rest
  | '\'' :: rest => literal rest
  | s =>
    match s.takeWhile isBare with
    | [] => none
    | key => some (key, s.dropWhile isBare)

/-- Reads a key: one part or more, with points and blanks between them. -/
def keyParts : Nat → List Char → Option (List String × List Char)
  | 0, _ => none
  | fuel + 1, s => do
    let (part, rest) ← simpleKey (skipBlanks s)
    match skipBlanks rest with
    | '.' :: rest =>
      let (parts, rest) ← keyParts fuel rest
      return (String.ofList part :: parts, rest)
    | rest => return ([String.ofList part], rest)

end SyscallPolicy.Toml.Lexeme
