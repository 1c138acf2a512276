import SyscallPolicy.Json.Value

/-!
# Writing JSON

A layout fixes the blanks between the tokens of a text; all else is the same in every
layout.  Strings escape the quote, the backslash and the control characters below the
space, and nothing else.  A container without content is written without a break.
-/

namespace SyscallPolicy.Json

/-- The blanks that a written text has between its tokens. -/
structure Layout where
  /-- What stands before an element at this depth, and before the closing bracket. -/
  lineBreak : Nat → List Char
  /-- What stands after the colon of a member. -/
  gap : List Char

namespace Layout

/-- No blanks. -/
def compact : Layout :=
  ⟨fun _ => [], []⟩

/-- One element a line, each level two spaces to the right. -/
def indented : Layout :=
  ⟨fun depth => '\n' :: List.replicate (2 * depth) ' ', [' ']⟩

end Layout

/-- The lower-case hexadecimal digit of a value below sixteen. -/
def hexDigit (value : Nat) : Char :=
  if value < 10 then Char.ofNat (0x30 + value) else Char.ofNat (0x61 + (value - 10))

/-- How a character stands in a string. -/
def escapeChar (c : Char) : List Char :=
  if c = '"' then ['\\', '"']
  else if c = '\\' then ['\\', '\\']
  else if c = '\x08' then ['\\', 'b']
  else if c = '\x0c' then ['\\', 'f']
  else if c = '\n' then ['\\', 'n']
  else if c = '\r' then ['\\', 'r']
  else if c = '\t' then ['\\', 't']
  else if c < ' ' then ['\\', 'u', '0', '0', hexDigit (c.toNat / 16), hexDigit (c.toNat % 16)]
  else [c]

/-- How a surrogate half stands in a string. -/
def escapeUnit (unit : Nat) : List Char :=
  ['\\', 'u', hexDigit (unit / 4096 % 16), hexDigit (unit / 256 % 16),
    hexDigit (unit / 16 % 16), hexDigit (unit % 16)]

/-- How a symbol stands in a string. -/
def escapeSymbol : Symbol → List Char
  | .char c => escapeChar c
  | .half unit => escapeUnit unit

/-- A string with its quotes. -/
def quoted (symbols : List Symbol) : List Char :=
  '"' :: (symbols.flatMap escapeSymbol ++ ['"'])

mutual

/-- The text of a value that stands at this depth. -/
def render (layout : Layout) (depth : Nat) : Json → List Char
  | .null => ['n', 'u', 'l', 'l']
  | .bool true => ['t', 'r', 'u', 'e']
  | .bool false => ['f', 'a', 'l', 's', 'e']
  | .number literal => literal
  | .string symbols => quoted symbols
  | .array [] => ['[', ']']
  | .array (item :: items) =>
    '[' :: (layout.lineBreak (depth + 1) ++ render layout (depth + 1) item ++
      renderItems layout (depth + 1) items ++ layout.lineBreak depth ++ [']'])
  | .object [] => ['\x7b', '\x7d']
  | .object ((key, value) :: members) =>
    '\x7b' :: (layout.lineBreak (depth + 1) ++ quoted key ++ ':' :: layout.gap ++
      render layout (depth + 1) value ++ renderMembers layout (depth + 1) members ++
      layout.lineBreak depth ++ ['\x7d'])

/-- The text of the further items of an array. -/
def renderItems (layout : Layout) (depth : Nat) : List Json → List Char
  | [] => []
  | item :: items =>
    ',' :: (layout.lineBreak depth ++ render layout depth item ++ renderItems layout depth items)

/-- The text of the further members of an object. -/
def renderMembers (layout : Layout) (depth : Nat) : List (List Symbol × Json) → List Char
  | [] => []
  | (key, value) :: members =>
    ',' :: (layout.lineBreak depth ++ quoted key ++ ':' :: layout.gap ++
      render layout depth value ++ renderMembers layout depth members)

end

/-- The text of a document. -/
def write (layout : Layout) (value : Json) : String :=
  String.ofList (render layout 0 value)

end SyscallPolicy.Json
