import SyscallPolicy.Toml.Value

/-!
# Writing TOML

One way to write a document down: each section under a header of its own, each key on a
line of its own, keys and strings as basic strings, and tables inside values as inline
tables.  A float or a moment has lost what it was, so any one of its kind stands for it.
-/

namespace SyscallPolicy.Toml

/-- The upper-case hexadecimal digit of a value below sixteen. -/
def hexDigit (value : Nat) : Char :=
  if value < 10 then Char.ofNat (0x30 + value) else Char.ofNat (0x41 + (value - 10))

/-- How a character stands in a basic string. -/
def escapeChar (c : Char) : List Char :=
  if c = '"' then ['\\', '"']
  else if c = '\\' then ['\\', '\\']
  else if c < ' ' ∨ c = '\x7f' then
    ['\\', 'u', '0', '0', hexDigit (c.toNat / 16), hexDigit (c.toNat % 16)]
  else [c]

/-- A basic string with its quotes. -/
def quoted (s : String) : List Char :=
  '"' :: (s.toList.flatMap escapeChar ++ ['"'])

mutual

/-- The text of a value. -/
def render : Toml → List Char
  | .string value => quoted value
  | .integer value => (toString value).toList
  | .float => ['0', '.', '0']
  | .boolean true => ['t', 'r', 'u', 'e']
  | .boolean false => ['f', 'a', 'l', 's', 'e']
  | .moment => ['0', '0', ':', '0', '0', ':', '0', '0']
  | .array items => '[' :: (renderItems items ++ [']'])
  | .table entries => '\x7b' :: (renderEntries entries ++ ['\x7d'])

/-- The text of the items of an array. -/
def renderItems : List Toml → List Char
  | [] => []
  | [item] => render item
  | item :: items => render item ++ ',' :: renderItems items

/-- The text of the entries of an inline table. -/
def renderEntries : List (String × Toml) → List Char
  | [] => []
  | [(key, value)] => quoted key ++ '=' :: render value
  | (key, value) :: entries => quoted key ++ '=' :: (render value ++ ',' :: renderEntries entries)

end

/-- A section: the key of its header, and the entries below it. -/
abbrev SectionDraft := String × List (String × Toml)

/-- The line of an entry. -/
def renderLine (entry : String × Toml) : List Char :=
  quoted entry.1 ++ ' ' :: '=' :: ' ' :: (render entry.2 ++ ['\n'])

/-- The lines of a section. -/
def renderSection (draft : SectionDraft) : List Char :=
  '[' :: (quoted draft.1 ++ ']' :: '\n' :: draft.2.flatMap renderLine)

/-- The document of some sections. -/
def renderDocument (drafts : List SectionDraft) : List Char :=
  drafts.flatMap renderSection

/-- The value that the document of some sections stands for. -/
def ofDrafts (drafts : List SectionDraft) : Toml :=
  .table (drafts.map fun draft => (draft.1, .table draft.2))

end SyscallPolicy.Toml
