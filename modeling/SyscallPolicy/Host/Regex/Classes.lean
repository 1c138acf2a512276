import SyscallPolicy.Host.Regex.Basic

/-!
# Classes of characters

The classes that have names in expressions, and the properties of characters, as far as
they concern the characters that are bytes.
-/

namespace SyscallPolicy.Host.Regex

/-- The ranges of a class that has a name. -/
def classRanges? (name : Octets) : Option (List (Char × Char)) :=
  match String.ofList name with
  | "alpha" => some [('A', 'Z'), ('a', 'z')]
  | "digit" => some [('0', '9')]
  | "alnum" => some [('0', '9'), ('A', 'Z'), ('a', 'z')]
  | "upper" => some [('A', 'Z')]
  | "lower" => some [('a', 'z')]
  | "space" => some [('\t', '\r'), (' ', ' ')]
  | "blank" => some [('\t', '\t'), (' ', ' ')]
  | "punct" => some [('!', '/'), (':', '@'), ('[', '`'), ('\x7b', '~')]
  | "print" => some [(' ', '~')]
  | "graph" => some [('!', '~')]
  | "cntrl" => some [('\x00', '\x1f'), ('\x7f', '\x7f')]
  | "xdigit" => some [('0', '9'), ('A', 'F'), ('a', 'f')]
  | _ => none

/-- The characters of words. -/
def wordChars : List (Char × Char) := [('0', '9'), ('A', 'Z'), ('_', '_'), ('a', 'z')]

/-- The category of a character, as two letters. -/
def category (c : Char) : String :=
  let n := c.toNat
  let isIn (s : String) : Bool := s.toList.contains c
  if n < 32 || (127 ≤ n && n < 160) then "Cc"
  else if c == ' ' || n = 160 then "Zs"
  else if c.isDigit then "Nd"
  else if c.isUpper || (192 ≤ n && n ≤ 222 && n ≠ 215) then "Lu"
  else if c.isLower || n = 181 || (223 ≤ n && n ≠ 247) then "Ll"
  else if c == '_' then "Pc"
  else if c == '-' then "Pd"
  else if isIn "([\x7b" then "Ps"
  else if isIn ")]\x7d" then "Pe"
  else if n = 171 then "Pi"
  else if n = 187 then "Pf"
  else if isIn "$\xa2\xa3\xa4\xa5" then "Sc"
  else if isIn "+<=>|~\xac\xb1\xd7\xf7" then "Sm"
  else if isIn "^`\xa8\xaf\xb4\xb8" then "Sk"
  else if isIn "\xa6\xa9\xae\xb0" then "So"
  else if n = 170 || n = 186 then "Lo"
  else if n = 173 then "Cf"
  else if isIn "\xb2\xb3\xb9\xbc\xbd\xbe" then "No"
  else "Po"

/-- The categories that have characters or not. -/
def categories : List String :=
  ["Cc", "Cf", "Cn", "Co", "Cs", "Ll", "Lm", "Lo", "Lt", "Lu", "Mc", "Me", "Mn", "Nd", "Nl",
   "No", "Pc", "Pd", "Pe", "Pf", "Pi", "Po", "Ps", "Sc", "Sk", "Sm", "So", "Zl", "Zp", "Zs"]

/-- Some scripts in which no character is written that is a byte. -/
def farScripts : List String :=
  ["arabic", "armenian", "bengali", "cherokee", "coptic", "cyrillic", "devanagari", "ethiopic",
   "georgian", "greek", "gujarati", "han", "hangul", "hebrew", "hiragana", "kannada", "katakana",
   "khmer", "lao", "malayalam", "mongolian", "tamil", "telugu", "thai", "tibetan", "inherited",
   "braille", "gothic", "runic", "sinhala", "syriac", "thaana", "myanmar", "ogham", "oriya"]

/-- A name of a property without case, blanks, hyphens and low lines. -/
def looseName (name : Octets) : String :=
  String.ofList ((name.filter fun c => !(c == ' ' || c == '-' || c == '_')).map Char.toLower)

/-- Whether a character is written in the Latin script. -/
def isLatin (c : Char) : Bool :=
  c.toNat ≠ 181 && ((category c).startsWith "L")

/-- The property of characters that has a name. -/
def property? (name : Octets) : Option (Char → Bool) :=
  let loose := looseName name
  let isLetter (c : Char) : Bool := (category c).startsWith "L"
  let isNumber (c : Char) : Bool := (category c).startsWith "N"
  let isSpace (c : Char) : Bool := Octets.isSpace c || c.toNat = 0x85 || c.toNat = 0xA0
  match categories.find? fun known => known.toLower = loose with
  | some known => some fun c => category c == known
  | none =>
    match loose.toList with
    | [letter] =>
      if ['c', 'l', 'm', 'n', 'p', 's', 'z'].contains letter then
        some fun c => (category c).toList.head? == some letter.toUpper
      else none
    | _ =>
      match loose with
      | "any" => some fun _ => true
      | "l&" => some fun c => category c == "Lu" || category c == "Ll"
      | "lc" => some fun c => category c == "Lu" || category c == "Ll"
      | "xan" => some fun c => isLetter c || isNumber c
      | "xsp" => some isSpace
      | "xps" => some isSpace
      | "xwd" => some fun c => isLetter c || isNumber c || c == '_'
      | "xuc" => some fun c => c == '$' || c == '@' || c == '`' || 0xA0 ≤ c.toNat
      | "latin" => some isLatin
      | "latn" => some isLatin
      | "common" => some fun c => !isLatin c
      | "zyyy" => some fun c => !isLatin c
      | "alphabetic" => some isLetter
      | "alpha" => some isLetter
      | "uppercase" => some fun c => category c == "Lu"
      | "upper" => some fun c => category c == "Lu"
      | "lowercase" => some fun c => category c == "Ll" || category c == "Lo"
      | "lower" => some fun c => category c == "Ll" || category c == "Lo"
      | "whitespace" => some isSpace
      | "wspace" => some isSpace
      | "space" => some isSpace
      | "ascii" => some fun c => c.toNat < 128
      | "hexdigit" => some fun c => (Octets.digitIn? 16 c).isSome
      | "asciihexdigit" => some fun c => (Octets.digitIn? 16 c).isSome
      | "ahex" => some fun c => (Octets.digitIn? 16 c).isSome
      | _ => if farScripts.contains loose then some fun _ => false else none

end SyscallPolicy.Host.Regex
