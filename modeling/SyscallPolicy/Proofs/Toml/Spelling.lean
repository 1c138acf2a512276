import Mathlib.Algebra.Field.Rat
import SyscallPolicy.Toml.Reader

/-!
# Spellings of TOML documents

What texts are documents, said by the grammar alone and not by how a text is read.  A
document is a sequence of lines, each with a statement or without one: a header, or a key
and its value.  A value has many spellings.  Strings come in four kinds, integers in four
bases, and arrays and inline tables go with blanks, comments and line ends between their
parts.

`width` and `depth` bound how many parts a key has, and how deep arrays and inline tables
stand in one another.  `Document width depth text statements` says that a text with these
bounds has these statements.  Integers are of 64 bits, and a float rounds to a binary64
number unless it is negative.
-/

namespace SyscallPolicy.Toml

open Lexeme (isBlank isText)
open Scalar (ofDigits isHexDigit isOctDigit isBinDigit integerBound daysIn)
open Reader (Statement)

/-! ## Blanks, line ends and comments -/

/-- Whether a text has nothing but blanks. -/
def IsBlanks (text : List Char) : Prop :=
  ∀ c ∈ text, isBlank c = true

/-- Whether a text is the end of a line. -/
def IsFeed (text : List Char) : Prop :=
  text = ['\n'] ∨ text = ['\r', '\n']

/-- Whether a text is a comment, or nothing. -/
def IsRemark (text : List Char) : Prop :=
  text = [] ∨ ∃ inside, text = '#' :: inside ∧ ∀ c ∈ inside, isText c = true

/-- A text of blanks and line ends. -/
inductive IsVoid : List Char → Prop
  | nil : IsVoid []
  | blank {c : Char} {rest : List Char} (blank : isBlank c = true) (others : IsVoid rest) :
      IsVoid (c :: rest)
  | feed {feed rest : List Char} (isFeed : IsFeed feed) (others : IsVoid rest) :
      IsVoid (feed ++ rest)

/-- A text of blanks, and of line ends with a comment in front or without one. -/
inductive IsSpace : List Char → Prop
  | nil : IsSpace []
  | blank {c : Char} {rest : List Char} (blank : isBlank c = true) (others : IsSpace rest) :
      IsSpace (c :: rest)
  | line {remark feed rest : List Char} (isRemark : IsRemark remark) (isFeed : IsFeed feed)
      (others : IsSpace rest) : IsSpace (remark ++ (feed ++ rest))

/-! ## Strings -/

/-- What stands behind a backslash, and the character that both stand for. -/
inductive SpellsEscape : List Char → Char → Prop
  | short {letter c : Char} (named : Lexeme.shortEscape? letter = some c) :
      SpellsEscape [letter] c
  | four {digits : List Char} {c : Char} (length : digits.length = 4)
      (numbered : Lexeme.scalar? digits = some c) : SpellsEscape ('u' :: digits) c
  | eight {digits : List Char} {c : Char} (length : digits.length = 8)
      (numbered : Lexeme.scalar? digits = some c) : SpellsEscape ('U' :: digits) c

/-- A text between the quotes of a basic string, and its content. -/
inductive SpellsBasic : List Char → List Char → Prop
  | nil : SpellsBasic [] []
  | plain {c : Char} {text content : List Char} (isText : isText c = true) (ne_quote : c ≠ '"')
      (ne_slash : c ≠ '\\') (rest : SpellsBasic text content) :
      SpellsBasic (c :: text) (c :: content)
  | escape {escape text content : List Char} {c : Char} (escaped : SpellsEscape escape c)
      (rest : SpellsBasic text content) :
      SpellsBasic ('\\' :: (escape ++ text)) (c :: content)

/-- Whether a text may stand between the quotes of a literal string. -/
def IsLiteral (text : List Char) : Prop :=
  ∀ c ∈ text, isText c = true ∧ c ≠ '\''

/-- A string of several lines with the three quotes that close it, and its content.  Up to
two quotes in front of those three belong to the string.  With double quotes a backslash
escapes a character, or takes the end of its line and all space behind it away. -/
inductive SpellsLong (quote : Char) : List Char → List Char → Prop
  | close {count : ℕ} (few : count ≤ 2) :
      SpellsLong quote (List.replicate (count + 3) quote) (List.replicate count quote)
  | quote {text content : List Char} (few : ¬ [quote, quote, quote] <+: quote :: text)
      (rest : SpellsLong quote text content) : SpellsLong quote (quote :: text) (quote :: content)
  | feed {feed text content : List Char} (isFeed : IsFeed feed)
      (rest : SpellsLong quote text content) : SpellsLong quote (feed ++ text) ('\n' :: content)
  | plain {c : Char} {text content : List Char} (isText : isText c = true) (ne_quote : c ≠ quote)
      (ne_slash : quote = '"' → c ≠ '\\') (rest : SpellsLong quote text content) :
      SpellsLong quote (c :: text) (c :: content)
  | escape {escape text content : List Char} {c : Char} (isBasic : quote = '"')
      (escaped : SpellsEscape escape c) (rest : SpellsLong quote text content) :
      SpellsLong quote ('\\' :: (escape ++ text)) (c :: content)
  | fold {blanks feed space text content : List Char} (isBasic : quote = '"')
      (blank : IsBlanks blanks) (isFeed : IsFeed feed)
      (isVoid : IsVoid space)
      (solid : ∀ c, text.head? = some c → isBlank c = false ∧ c ≠ '\n' ∧ c ≠ '\r')
      (rest : SpellsLong quote text content) :
      SpellsLong quote ('\\' :: (blanks ++ (feed ++ (space ++ text)))) content

/-- A string with its quotes, and its content.  A string of several lines begins behind the
line end that stands right after the opening quotes, if there is one. -/
inductive SpellsString : List Char → List Char → Prop
  | basic {text content : List Char} (spelled : SpellsBasic text content) :
      SpellsString ('"' :: (text ++ ['"'])) content
  | literal {text : List Char} (plain : IsLiteral text) :
      SpellsString ('\'' :: (text ++ ['\''])) text
  | long {quote : Char} {feed text content : List Char} (isQuote : quote = '"' ∨ quote = '\'')
      (opening : IsFeed feed ∨ (feed = [] ∧ Lexeme.lineFeed? text = none))
      (spelled : SpellsLong quote text content) :
      SpellsString (quote :: quote :: quote :: (feed ++ text)) content

/-! ## Keys -/

/-- A part of a key, and its name. -/
inductive SpellsPart : List Char → String → Prop
  | bare {text : List Char} (nonempty : text ≠ []) (plain : ∀ c ∈ text, Lexeme.isBare c = true) :
      SpellsPart text (String.ofList text)
  | basic {text content : List Char} (spelled : SpellsBasic text content) :
      SpellsPart ('"' :: (text ++ ['"'])) (String.ofList content)
  | literal {text : List Char} (plain : IsLiteral text) :
      SpellsPart ('\'' :: (text ++ ['\''])) (String.ofList text)

/-- A key with the blanks behind it, and its parts. -/
inductive SpellsKey : List Char → List String → Prop
  | last {text after : List Char} {part : String} (spelled : SpellsPart text part)
      (blankAfter : IsBlanks after) : SpellsKey (text ++ after) [part]
  | more {text after before rest : List Char} {part : String} {parts : List String}
      (spelled : SpellsPart text part) (blankAfter : IsBlanks after) (blankBefore : IsBlanks before)
      (others : SpellsKey rest parts) :
      SpellsKey (text ++ (after ++ '.' :: (before ++ rest))) (part :: parts)

/-! ## Numbers -/

/-- Digits with single underscores between them or without, and the digits alone. -/
inductive SpellsDigits (isDigit : Char → Bool) : List Char → List Char → Prop
  | last {c : Char} (digit : isDigit c = true) : SpellsDigits isDigit [c] [c]
  | next {c : Char} {text digits : List Char} (digit : isDigit c = true)
      (rest : SpellsDigits isDigit text digits) : SpellsDigits isDigit (c :: text) (c :: digits)
  | spaced {c : Char} {text digits : List Char} (digit : isDigit c = true)
      (rest : SpellsDigits isDigit text digits) :
      SpellsDigits isDigit (c :: '_' :: text) (c :: digits)

/-- The digits in front of the point of a decimal number: no zero stands in front of others. -/
inductive SpellsWhole : List Char → List Char → Prop
  | zero : SpellsWhole ['0'] ['0']
  | digits {text digits : List Char} (spelled : SpellsDigits Char.isDigit text digits)
      (head : text.head? ≠ some '0') : SpellsWhole text digits

/-- A sign or nothing, and whether it is a minus. -/
inductive SpellsSign : List Char → Bool → Prop
  | none : SpellsSign [] false
  | plus : SpellsSign ['+'] false
  | minus : SpellsSign ['-'] true

/-- A number with the sign that it is given. -/
def signed (negative : Bool) (value : ℕ) : ℤ :=
  if negative then -(value : ℤ) else value

/-- An integer in one of four bases. -/
inductive SpellsInteger : List Char → ℤ → Prop
  | decimal {sign whole digits : List Char} {negative : Bool}
      (spelledSign : SpellsSign sign negative) (spelled : SpellsWhole whole digits) :
      SpellsInteger (sign ++ whole) (signed negative (ofDigits 10 digits))
  | hexadecimal {text digits : List Char} (spelled : SpellsDigits isHexDigit text digits) :
      SpellsInteger ('0' :: 'x' :: text) (ofDigits 16 digits)
  | octal {text digits : List Char} (spelled : SpellsDigits isOctDigit text digits) :
      SpellsInteger ('0' :: 'o' :: text) (ofDigits 8 digits)
  | binary {text digits : List Char} (spelled : SpellsDigits isBinDigit text digits) :
      SpellsInteger ('0' :: 'b' :: text) (ofDigits 2 digits)

/-- The fraction of a float or nothing, and its digits. -/
inductive SpellsFraction : List Char → List Char → Prop
  | none : SpellsFraction [] []
  | some {text digits : List Char} (spelled : SpellsDigits Char.isDigit text digits) :
      SpellsFraction ('.' :: text) digits

/-- The exponent of a float or nothing, and its value. -/
inductive SpellsExponent : List Char → ℤ → Prop
  | none : SpellsExponent [] 0
  | some {mark : Char} {sign text digits : List Char} {negative : Bool}
      (isMark : mark = 'e' ∨ mark = 'E') (spelledSign : SpellsSign sign negative)
      (spelled : SpellsDigits Char.isDigit text digits) :
      SpellsExponent (mark :: (sign ++ text)) (signed negative (ofDigits 10 digits))

/-- The least number that rounds to no binary64 number: it is half a unit in the last place
above the largest one. -/
def binary64Limit : ℕ :=
  Nat.pow 2 1024 - Nat.pow 2 970

/-- Whether digits times a power of ten round to a binary64 number. -/
def IsBinary64 (digits : List Char) (exponent : ℤ) : Prop :=
  (ofDigits 10 digits : ℚ) * 10 ^ exponent < binary64Limit

/-- A float: a word, or a decimal number with a fraction, an exponent or both. -/
inductive SpellsFloat : List Char → Prop
  | infinity {sign : List Char} {negative : Bool} (spelledSign : SpellsSign sign negative) :
      SpellsFloat (sign ++ ['i', 'n', 'f'])
  | notNumber {sign : List Char} {negative : Bool} (spelledSign : SpellsSign sign negative) :
      SpellsFloat (sign ++ ['n', 'a', 'n'])
  | decimal {sign whole digits fraction places power : List Char} {negative : Bool} {exponent : ℤ}
      (spelledSign : SpellsSign sign negative) (spelled : SpellsWhole whole digits)
      (spelledFraction : SpellsFraction fraction places)
      (spelledPower : SpellsExponent power exponent)
      (isLong : fraction ≠ [] ∨ power ≠ [])
      (fits : negative = true ∨ IsBinary64 (digits ++ places) (exponent - places.length)) :
      SpellsFloat (sign ++ (whole ++ (fraction ++ power)))

/-! ## Moments -/

/-- The two digits of a number below a hundred. -/
def twoDigits (value : ℕ) : List Char :=
  [Nat.digitChar (value / 10), Nat.digitChar (value % 10)]

/-- A day of the calendar. -/
inductive SpellsDate : List Char → Prop
  | day {century year month day : ℕ} (century_lt : century < 100) (year_lt : year < 100)
      (one_le_month : 1 ≤ month) (month_le : month ≤ 12) (one_le_day : 1 ≤ day)
      (day_le : day ≤ daysIn (century * 100 + year) month) :
      SpellsDate (twoDigits century ++ twoDigits year ++ '-' :: (twoDigits month ++
        '-' :: twoDigits day))

/-- The fraction of a second, or nothing. -/
def IsSecondFraction (text : List Char) : Prop :=
  text = [] ∨ ∃ digits, text = '.' :: digits ∧ digits ≠ [] ∧ ∀ c ∈ digits, c.isDigit = true

/-- A time of the day.  The second may be a leap second. -/
inductive SpellsTime : List Char → Prop
  | time {hour minute second : ℕ} {fraction : List Char} (hour_le : hour ≤ 23)
      (minute_le : minute ≤ 59) (second_le : second ≤ 60) (isFraction : IsSecondFraction fraction) :
      SpellsTime (twoDigits hour ++ ':' :: (twoDigits minute ++
        ':' :: (twoDigits second ++ fraction)))

/-- An offset from universal time, or nothing. -/
inductive SpellsOffset : List Char → Prop
  | none : SpellsOffset []
  | zero {mark : Char} (isMark : mark = 'Z' ∨ mark = 'z') : SpellsOffset [mark]
  | hours {mark : Char} {hour minute : ℕ} (isMark : mark = '+' ∨ mark = '-') (hour_le : hour ≤ 23)
      (minute_le : minute ≤ 59) :
      SpellsOffset (mark :: (twoDigits hour ++ ':' :: twoDigits minute))

/-- A date, a time, or both with a letter or a space between them. -/
inductive SpellsMoment : List Char → Prop
  | date {text : List Char} (spelled : SpellsDate text) : SpellsMoment text
  | time {text : List Char} (spelled : SpellsTime text) : SpellsMoment text
  | both {date time offset : List Char} {mark : Char} (spelledDate : SpellsDate date)
      (isMark : mark = 'T' ∨ mark = 't' ∨ mark = ' ') (spelledTime : SpellsTime time)
      (spelledOffset : SpellsOffset offset) : SpellsMoment (date ++ mark :: (time ++ offset))

/-! ## Values -/

/-- The parts of the whole key of a pair. -/
def Pair.parts (pair : Pair) : List String :=
  pair.path ++ [pair.key]

/-- Whether no key of a pair leads to the value of another one, or through it. -/
def AreApart (pairs : List Pair) : Prop :=
  pairs.Pairwise fun pair other => ¬ pair.parts <+: other.parts ∧ ¬ other.parts <+: pair.parts

/-- The table that pairs make. -/
def tableOf (pairs : List Pair) : Toml :=
  (tableOf? pairs []).getD (.table [])

mutual

/-- A text without blanks around it, and the value that it stands for. -/
inductive Spells (width : ℕ) : ℕ → List Char → Toml → Prop
  | string {depth : ℕ} {text content : List Char} (spelled : SpellsString text content) :
      Spells width depth text (.string (String.ofList content))
  | integer {depth : ℕ} {text : List Char} {value : ℤ} (spelled : SpellsInteger text value)
      (le_value : -integerBound ≤ value) (value_lt : value < integerBound) :
      Spells width depth text (.integer value)
  | float {depth : ℕ} {text : List Char} (spelled : SpellsFloat text) :
      Spells width depth text .float
  | yes {depth : ℕ} : Spells width depth ['t', 'r', 'u', 'e'] (.boolean true)
  | no {depth : ℕ} : Spells width depth ['f', 'a', 'l', 's', 'e'] (.boolean false)
  | moment {depth : ℕ} {text : List Char} (spelled : SpellsMoment text) :
      Spells width depth text .moment
  | array {depth : ℕ} {text : List Char} {items : List Toml}
      (spelled : SpellsItems width depth text items) :
      Spells width (depth + 1) ('[' :: (text ++ [']'])) (.array items)
  | noPairs {depth : ℕ} {blanks : List Char} (blank : IsBlanks blanks) :
      Spells width (depth + 1) ('\x7b' :: (blanks ++ ['\x7d'])) (.table [])
  | pairs {depth : ℕ} {text : List Char} {pairs : List Pair}
      (spelled : SpellsPairs width depth text pairs) (apart : AreApart pairs) :
      Spells width (depth + 1) ('\x7b' :: (text ++ ['\x7d'])) (tableOf pairs)

/-- A text between the brackets of an array, and its items.  A comma may stand behind the
last one. -/
inductive SpellsItems (width : ℕ) : ℕ → List Char → List Toml → Prop
  | none {depth : ℕ} {space : List Char} (isSpace : IsSpace space) :
      SpellsItems width depth space []
  | last {depth : ℕ} {before text after : List Char} {item : Toml} (spaceBefore : IsSpace before)
      (spelled : Spells width depth text item) (spaceAfter : IsSpace after) :
      SpellsItems width depth (before ++ (text ++ after)) [item]
  | more {depth : ℕ} {before text after rest : List Char} {item : Toml} {items : List Toml}
      (spaceBefore : IsSpace before) (spelled : Spells width depth text item)
      (spaceAfter : IsSpace after) (others : SpellsItems width depth rest items) :
      SpellsItems width depth (before ++ (text ++ (after ++ ',' :: rest))) (item :: items)

/-- A key and its value, without blanks around them. -/
inductive SpellsPair (width : ℕ) : ℕ → List Char → Pair → Prop
  | pair {depth : ℕ} {key gap text : List Char} {pair : Pair} (named : SpellsKey key pair.parts)
      (short : pair.parts.length ≤ width) (blankGap : IsBlanks gap)
      (spelled : Spells width depth text pair.value) :
      SpellsPair width depth (key ++ '=' :: (gap ++ text)) pair

/-- A text between the braces of an inline table, and its pairs, at least one. -/
inductive SpellsPairs (width : ℕ) : ℕ → List Char → List Pair → Prop
  | last {depth : ℕ} {before text after : List Char} {pair : Pair} (blankBefore : IsBlanks before)
      (spelled : SpellsPair width depth text pair) (blankAfter : IsBlanks after) :
      SpellsPairs width depth (before ++ (text ++ after)) [pair]
  | more {depth : ℕ} {before text after rest : List Char} {pair : Pair} {pairs : List Pair}
      (blankBefore : IsBlanks before) (spelled : SpellsPair width depth text pair)
      (blankAfter : IsBlanks after) (others : SpellsPairs width depth rest pairs) :
      SpellsPairs width depth (before ++ (text ++ (after ++ ',' :: rest))) (pair :: pairs)

end

/-! ## Documents -/

/-- What a line holds, without blanks around it. -/
inductive SpellsStatement (width depth : ℕ) : List Char → Statement → Prop
  | pair {text : List Char} {pair : Pair} (spelled : SpellsPair width depth text pair) :
      SpellsStatement width depth text (.pair pair)
  | header {before key : List Char} {path : List String} {name : String}
      (blankBefore : IsBlanks before) (named : SpellsKey key (path ++ [name]))
      (short : (path ++ [name]).length ≤ width) :
      SpellsStatement width depth ('[' :: (before ++ (key ++ [']']))) (.header false path name)
  | doubleHeader {before key : List Char} {path : List String} {name : String}
      (blankBefore : IsBlanks before) (named : SpellsKey key (path ++ [name]))
      (short : (path ++ [name]).length ≤ width) :
      SpellsStatement width depth ('[' :: '[' :: (before ++ (key ++ [']', ']'])))
        (.header true path name)

/-- A line without its end, and what it holds. -/
inductive SpellsLine (width depth : ℕ) : List Char → Option Statement → Prop
  | empty {blanks remark : List Char} (blank : IsBlanks blanks) (isRemark : IsRemark remark) :
      SpellsLine width depth (blanks ++ remark) none
  | full {before text after remark : List Char} {statement : Statement}
      (blankBefore : IsBlanks before) (spelled : SpellsStatement width depth text statement)
      (blankAfter : IsBlanks after) (isRemark : IsRemark remark) :
      SpellsLine width depth (before ++ (text ++ (after ++ remark))) (some statement)

/-- Lines with their ends, and what they hold. -/
inductive SpellsLines (width depth : ℕ) : List Char → List Statement → Prop
  | last {text : List Char} {statement : Option Statement}
      (spelled : SpellsLine width depth text statement) :
      SpellsLines width depth text statement.toList
  | more {text feed rest : List Char} {statement : Option Statement} {statements : List Statement}
      (spelled : SpellsLine width depth text statement) (isFeed : IsFeed feed)
      (others : SpellsLines width depth rest statements) :
      SpellsLines width depth (text ++ (feed ++ rest)) (statement.toList ++ statements)

/-- Whether a text is a document with these statements.  A byte order mark may stand in
front. -/
def Document (width depth : ℕ) (text : List Char) (statements : List Statement) : Prop :=
  ∃ lines, (text = lines ∨ text = '\uFEFF' :: lines) ∧ SpellsLines width depth lines statements

/-! ## Tables of a document -/

/-- The first part of the key of a pair. -/
def Pair.first (pair : Pair) : String :=
  pair.path.headD pair.key

/-- The first part of a header. -/
def Section.first (part : Section) : String :=
  part.path.headD part.key

/-- Whether the header of a section is this name alone, be it double or not. -/
def Section.IsNamed (part : Section) (name : String) : Prop :=
  part.path = [] ∧ part.key = name

instance (part : Section) (name : String) : Decidable (part.IsNamed name) :=
  inferInstanceAs (Decidable (_ ∧ _))

/-- The section as it stands in the table of the first part of its header. -/
def Section.below (part : Section) : Section :=
  { part with path := part.path.tail }

/-- The pairs behind the headers with this name. -/
def pairsOf (name : String) (parts : List Section) : List Pair :=
  (parts.filter fun part => part.IsNamed name).flatMap Section.pairs

/-- What sections below the table with this name are called there. -/
def namesBelow (name : String) (parts : List Section) : List String :=
  (parts.filter fun part => part.path.head? = some name).map fun part => part.below.first

/-- Whether the sections of a document give a name one table at most: it has one header, which
is not double, and its keys are apart, and they are not what sections below it are called. -/
structure IsTable (name : String) (parts : List Section) : Prop where
  once : (parts.filter fun part => part.IsNamed name).length ≤ 1
  single : ∀ part ∈ parts, part.IsNamed name → part.isArray = false
  apart : AreApart (pairsOf name parts)
  below_ne : ∀ pair ∈ pairsOf name parts, pair.first ∉ namesBelow name parts

/-- Whether the sections with these names are tables of their own.  No key in front of the
first header begins with such a name, and what is left of the document when these sections are
taken out makes a table, whatever other sections there are. -/
structure AreSections (names : List String) (top : List Pair) (parts : List Section) : Prop where
  top_ne : ∀ pair ∈ top, pair.first ∉ names
  tables : ∀ name ∈ names, IsTable name parts
  others : (tableOf? top (parts.filter fun part => ∀ name ∈ names, ¬ part.IsNamed name)).isSome

end SyscallPolicy.Toml
