import SyscallPolicy.Json.Reader

/-!
# Spellings of JSON values

A value has many spellings: blanks may stand between tokens, and a symbol of a string may
be written plainly or as an escape.  `Spells text value` says that a text, without blanks
around it, is one of them, and `Document text value` allows blanks around it too.  The
relations follow the grammar and say nothing about how a text is read.
-/

namespace SyscallPolicy.Json

/-- Whether a text has nothing but blanks. -/
def IsBlanks (text : List Char) : Prop :=
  ∀ c ∈ text, isBlank c = true

/-- A text between the quotes of a string, and the symbols that it stands for. -/
inductive SpellsSymbols : List Char → List Symbol → Prop
  | nil : SpellsSymbols [] []
  | plain {c : Char} {text : List Char} {symbols : List Symbol} (plain : isPlain c = true)
      (rest : SpellsSymbols text symbols) :
      SpellsSymbols (c :: text) (.char c :: symbols)
  | short {letter c : Char} {text : List Char} {symbols : List Symbol}
      (escape : shortEscape? letter = some c) (rest : SpellsSymbols text symbols) :
      SpellsSymbols ('\\' :: letter :: text) (.char c :: symbols)
  | unit {a b c d : Char} {unit : Nat} {text : List Char} {symbols : List Symbol}
      (escape : unit? a b c d = some unit) (rest : SpellsSymbols text symbols) :
      SpellsSymbols ('\\' :: 'u' :: a :: b :: c :: d :: text) (.ofUnit unit :: symbols)

/-- Whether a text is a string with its quotes, and stands for these symbols. -/
def SpellsString (text : List Char) (symbols : List Symbol) : Prop :=
  ∃ inside, text = '"' :: (inside ++ ['"']) ∧ SpellsSymbols inside symbols

/-- Whether a text is one digit or more. -/
def IsDigits (text : List Char) : Prop :=
  text ≠ [] ∧ ∀ c ∈ text, c.isDigit = true

/-- Whether a text is the integer part of a number. -/
def IsWhole (text : List Char) : Prop :=
  text = ['0'] ∨ (IsDigits text ∧ text.head? ≠ some '0')

/-- Whether a text is the fraction of a number, or nothing. -/
def IsFraction (text : List Char) : Prop :=
  text = [] ∨ ∃ digits, text = '.' :: digits ∧ IsDigits digits

/-- Whether a text is the exponent of a number, or nothing. -/
def IsExponent (text : List Char) : Prop :=
  text = [] ∨ ∃ mark sign digits, text = mark :: (sign ++ digits) ∧ (mark = 'e' ∨ mark = 'E') ∧
    (sign = [] ∨ sign = ['+'] ∨ sign = ['-']) ∧ IsDigits digits

/-- Whether a text is a number. -/
def IsNumber (text : List Char) : Prop :=
  ∃ sign whole fraction exponent, text = sign ++ whole ++ fraction ++ exponent ∧
    (sign = [] ∨ sign = ['-']) ∧ IsWhole whole ∧ IsFraction fraction ∧ IsExponent exponent

mutual

/-- A text without blanks around it, and the value that it stands for. -/
inductive Spells : List Char → Json → Prop
  | null : Spells ['n', 'u', 'l', 'l'] .null
  | yes : Spells ['t', 'r', 'u', 'e'] (.bool true)
  | no : Spells ['f', 'a', 'l', 's', 'e'] (.bool false)
  | number {text : List Char} (number : IsNumber text) : Spells text (.number text)
  | string {text : List Char} {symbols : List Symbol} (string : SpellsString text symbols) :
      Spells text (.string symbols)
  | noItems {blanks : List Char} (blank : IsBlanks blanks) :
      Spells ('[' :: (blanks ++ [']'])) (.array [])
  | items {text : List Char} {items : List Json} (spelled : SpellsItems text items) :
      Spells ('[' :: (text ++ [']'])) (.array items)
  | noMembers {blanks : List Char} (blank : IsBlanks blanks) :
      Spells ('\x7b' :: (blanks ++ ['\x7d'])) (.object [])
  | members {text : List Char} {members : List (List Symbol × Json)}
      (spelled : SpellsMembers text members) :
      Spells ('\x7b' :: (text ++ ['\x7d'])) (.object members)

/-- A text between the brackets of an array, and its items, at least one. -/
inductive SpellsItems : List Char → List Json → Prop
  | last {before text after : List Char} {item : Json} (blankBefore : IsBlanks before)
      (spelled : Spells text item) (blankAfter : IsBlanks after) :
      SpellsItems (before ++ text ++ after) [item]
  | more {before text after rest : List Char} {item : Json} {items : List Json}
      (blankBefore : IsBlanks before) (spelled : Spells text item) (blankAfter : IsBlanks after)
      (others : SpellsItems rest items) :
      SpellsItems (before ++ text ++ after ++ ',' :: rest) (item :: items)

/-- A text between the braces of an object, and its members, at least one. -/
inductive SpellsMembers : List Char → List (List Symbol × Json) → Prop
  | last {before key space gap text after : List Char} {symbols : List Symbol} {value : Json}
      (blankBefore : IsBlanks before) (named : SpellsString key symbols)
      (blankSpace : IsBlanks space) (blankGap : IsBlanks gap) (spelled : Spells text value)
      (blankAfter : IsBlanks after) :
      SpellsMembers (before ++ key ++ space ++ ':' :: (gap ++ text ++ after)) [(symbols, value)]
  | more {before key space gap text after rest : List Char} {symbols : List Symbol} {value : Json}
      {members : List (List Symbol × Json)}
      (blankBefore : IsBlanks before) (named : SpellsString key symbols)
      (blankSpace : IsBlanks space) (blankGap : IsBlanks gap) (spelled : Spells text value)
      (blankAfter : IsBlanks after) (others : SpellsMembers rest members) :
      SpellsMembers (before ++ key ++ space ++ ':' :: (gap ++ text ++ after ++ ',' :: rest))
        ((symbols, value) :: members)

end

/-- Whether a text with blanks around it stands for a value. -/
def Document (text : List Char) (value : Json) : Prop :=
  ∃ before inside after, text = before ++ inside ++ after ∧ IsBlanks before ∧
    Spells inside value ∧ IsBlanks after

end SyscallPolicy.Json
