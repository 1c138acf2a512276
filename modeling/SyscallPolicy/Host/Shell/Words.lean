import SyscallPolicy.Host.Shell.Token

/-!
# Reading words

A word goes on up to a character that separates words.  Between quotes, in braces, in
arithmetic and in a document, other characters have a meaning and something else ends the text.
An escaped line end is nothing at all, except between single quotes.

How a command substitution is read is the matter of the commands, so it is asked from a
function, with whether it ends with a parenthesis.
-/

namespace SyscallPolicy.Host.Shell

/-- A way to read the commands of a substitution. -/
abbrev Substitution := Bool → Reader Script

/-- Whether a character ends a word that is not quoted. -/
def endsWord (c : Char) : Bool :=
  isBlank c || c == '\n' || c == ';' || c == '&' || c == '|' || c == '<' || c == '>' ||
    c == '(' || c == ')'

namespace Reader

/-- Says that a text has no end, which a document may not have. -/
def unclosed {α : Type} : Reader α := do
  if (← get).mark?.isSome then throw "Missing '\x7d'" else throw "Unterminated quoted string"

/-- Characters that were read, the last one first, and what follows them as a word. -/
def gather : List Piece → Word → Word
  | [], word => word
  | .text isQuoted chars :: rest, .text isNextQuoted next :: word =>
    if isQuoted = isNextQuoted then gather rest (.text isQuoted (chars ++ next) :: word)
    else gather rest (.text isQuoted chars :: .text isNextQuoted next :: word)
  | piece :: rest, word => gather rest (piece :: word)

/-- The pieces as they are when they are not quoted. -/
def unquoted (pieces : Word) : Word :=
  pieces.map fun
    | .text _ chars => .text false chars
    | .parameter _ name use => .parameter false name use
    | .substitution _ body => .substitution false body
    | .arithmetic _ expression => .arithmetic false expression
    | .quotes => .quotes

/-- Pieces between double quotes.  A list of parameters alone leaves no trace of its quotes,
since it may stand for no word at all. -/
def betweenQuotes (pieces : Word) : Word :=
  match pieces with
  | [.parameter true ['@'] .value] => pieces
  | _ => .quotes :: pieces

/-- The characters that a backslash makes ordinary where it is ordinary before others. -/
def isEscapable (c : Char) : Bool :=
  c == '\\' || c == '`' || c == '$'

/-- Takes what follows a backslash, where it stands for itself unless a character is of some
kind.  The pieces come with the last one first. -/
def escaped (isSo : Char → Bool) : Reader (List Piece) := do
  skip 1
  match ← look with
  | none => return [.text true ['\\']]
  | some c =>
    skip 1
    return if isSo c then [.text true [c]] else [.text true [c], .text true ['\\']]

/-- Takes what is between single quotes, behind the first one. -/
def singleQuoted : Nat → List Piece → Reader (List Piece)
  | 0, _ => tooLong
  | fuel + 1, taken => do
    match ← look with
    | none => unclosed
    | some '\'' =>
      skip 1
      return taken
    | some c =>
      takeText c
      singleQuoted fuel (.text true [c] :: taken)

/-- Takes the text of a backquoted command without its escapes, up to the quote. -/
def backquotedText (isQuoted : Bool) : Nat → Octets → Reader Octets
  | 0, _ => tooLong
  | fuel + 1, taken => do
    match ← peek with
    | none => throw "EOF in backquote substitution"
    | some '`' =>
      skip 1
      return taken.reverse
    | some '\\' =>
      skip 1
      match ← look with
      | none => throw "EOF in backquote substitution"
      | some c =>
        skip 1
        backquotedText isQuoted fuel
          (if isEscapable c || (isQuoted && c == '"') then c :: taken else c :: '\\' :: taken)
    | some c =>
      skip 1
      backquotedText isQuoted fuel (c :: taken)

/-- Reads a command between backquotes, behind the first one. -/
def backquoted (nested : Substitution) (isQuoted : Bool) : Reader Piece := do
  let text ← backquotedText isQuoted greatestLength []
  return .substitution isQuoted (← within text (nested false))

/-- Whether a name or a number begins here. -/
def beginsParameter (c : Char) : Bool :=
  beginsName c || c.isDigit

/-- Takes a name or a number. -/
def parameterName : Reader Octets := do
  match ← peek with
  | some c => takeWhile (if c.isDigit then Char.isDigit else isInName) greatestLength []
  | none => return []

/-- What is made of a parameter in braces, as far as it shows in front of a word. -/
inductive BracedUse where
  | value
  | length
  | fallback (kind : Fallback) (orEmpty : Bool)
  | trim (atEnd isLongest : Bool)
  /-- The value, and a text behind it. -/
  | valueAndText
  | nonsense

/-- Takes the sign behind a parameter in braces.  A character that is no sign goes away. -/
def useSign : Reader BracedUse := do
  let orEmpty ← takes ':'
  match ← peek with
  | none => return .nonsense
  | some c =>
    skip 1
    match c with
    | '-' => return .fallback .instead orEmpty
    | '=' => return .fallback .assign orEmpty
    | '?' => return .fallback .complain orEmpty
    | '+' => return .fallback .replace orEmpty
    | '\x7d' => return if orEmpty then .valueAndText else .value
    | _ =>
      if orEmpty then return .nonsense
      else
        match c with
        | '%' => return .trim true (← takes '%')
        | '#' => return .trim false (← takes '#')
        | _ => return .nonsense

/-- Takes the end of a parameter of which the length is meant. -/
def lengthEnd : Reader BracedUse := do
  return if ← takes '\x7d' then .length else .nonsense

/-- Takes a parameter in braces and the sign behind it. -/
def bracedParameter : Reader (Octets × BracedUse) := do
  match ← peek with
  | none => return ([], .nonsense)
  | some '\x7d' => return ([], .nonsense)
  | some c =>
    if beginsParameter c then return (← parameterName, ← useSign)
    else
      skip 1
      if c != '#' then
        if isSpecial c then return ([c], ← useSign) else return ([], .nonsense)
      else
        match ← peek with
        | none => return (['#'], .nonsense)
        | some d =>
          if beginsParameter d then return (← parameterName, ← lengthEnd)
          else if d = '\x7d' then return (['#'], ← useSign)
          else
            let before := (← get).source
            skip 1
            if ← sees '\x7d' then
              if isSpecial d then return ([d], ← lengthEnd) else return ([], .nonsense)
            else
              modify fun cursor => { cursor with source := before }
              return (['#'], ← useSign)

mutual

/-- Reads what follows a dollar sign.  The pieces come with the last one first. -/
def dollar (nested : Substitution) : Nat → Bool → Reader (List Piece)
  | 0, _ => tooLong
  | fuel + 1, isQuoted => do
    match ← peek with
    | some '(' =>
      skip 1
      if ← takes '(' then
        return [.arithmetic isQuoted (← arithmetic nested fuel 0 [])]
      else return [.substitution isQuoted (← nested true)]
    | some '\x7b' =>
      skip 1
      let (name, use) ← bracedParameter
      let inside (inQuotes : Bool) : Reader Word := bracedWord nested fuel inQuotes []
      match use with
      | .value => return [.parameter isQuoted name .value]
      | .length => return [.parameter isQuoted name .length]
      | .fallback kind orEmpty =>
        return [.parameter isQuoted name (.fallback kind orEmpty (← inside isQuoted))]
      | .trim atEnd isLongest =>
        return [.parameter isQuoted name (.trim atEnd isLongest (← inside false))]
      | .valueAndText => return (← inside isQuoted).reverse ++ [.parameter isQuoted name .value]
      | .nonsense =>
        let _ ← inside isQuoted
        return [.parameter isQuoted [] .nonsense]
    | some c =>
      if beginsName c then
        return [.parameter isQuoted (← takeWhile isInName greatestLength []) .value]
      else if c.isDigit || isSpecial c then
        skip 1
        return [.parameter isQuoted [c] .value]
      else return [.text isQuoted ['$']]
    | none => return [.text isQuoted ['$']]

/-- Reads a word up to a closing brace. -/
def bracedWord (nested : Substitution) : Nat → Bool → List Piece → Reader Word
  | 0, _, _ => tooLong
  | fuel + 1, isQuoted, taken => do
    match ← peek with
    | none => if isQuoted then unclosed else throw "Missing '\x7d'"
    | some '\x7d' =>
      skip 1
      return gather taken []
    | some '\\' =>
      let found ← escaped fun c => !isQuoted || isEscapable c || c == '"' || c == '\x7d'
      bracedWord nested fuel isQuoted (found ++ taken)
    | some '"' =>
      skip 1
      let found ← quoted nested fuel true []
      let found := if isQuoted then unquoted found else betweenQuotes found
      bracedWord nested fuel isQuoted (found.reverse ++ taken)
    | some '$' =>
      skip 1
      let found ← dollar nested fuel isQuoted
      bracedWord nested fuel isQuoted (found ++ taken)
    | some '`' =>
      skip 1
      let found ← backquoted nested isQuoted
      bracedWord nested fuel isQuoted (found :: taken)
    | some c =>
      if c = '\'' && !isQuoted then
        skip 1
        let taken ← singleQuoted greatestLength (.quotes :: taken)
        bracedWord nested fuel isQuoted taken
      else
        takeText c
        bracedWord nested fuel isQuoted (.text isQuoted [c] :: taken)

/-- Reads what is between double quotes, behind the first one. -/
def quoted (nested : Substitution) : Nat → Bool → List Piece → Reader Word
  | 0, _, _ => tooLong
  | fuel + 1, isInBraces, taken => do
    match ← peek with
    | none => unclosed
    | some '"' =>
      skip 1
      return gather taken []
    | some '\\' =>
      let found ← escaped fun c => isEscapable c || c == '"' || (isInBraces && c == '\x7d')
      quoted nested fuel isInBraces (found ++ taken)
    | some '$' =>
      skip 1
      let found ← dollar nested fuel true
      quoted nested fuel isInBraces (found ++ taken)
    | some '`' =>
      skip 1
      let found ← backquoted nested true
      quoted nested fuel isInBraces (found :: taken)
    | some c =>
      takeText c
      quoted nested fuel isInBraces (.text true [c] :: taken)

/-- Reads arithmetic with so many parentheses open, up to the two that close it. -/
def arithmetic (nested : Substitution) : Nat → Nat → List Piece → Reader Word
  | 0, _, _ => tooLong
  | fuel + 1, depth, taken => do
    match ← peek with
    | none => throw "Missing '))'"
    | some ')' =>
      skip 1
      if depth = 0 && (← takes ')') then return gather taken []
      else arithmetic nested fuel (depth - 1) (.text true [')'] :: taken)
    | some '(' =>
      skip 1
      arithmetic nested fuel (depth + 1) (.text true ['('] :: taken)
    | some '\\' =>
      let isDocument := (← get).mark?.isSome
      let found ← escaped fun c => isEscapable c || (c == '"' && !isDocument)
      arithmetic nested fuel depth (found ++ taken)
    | some '$' =>
      skip 1
      let found ← dollar nested fuel true
      arithmetic nested fuel depth (found ++ taken)
    | some '`' =>
      skip 1
      let found ← backquoted nested true
      arithmetic nested fuel depth (found :: taken)
    | some c =>
      takeText c
      arithmetic nested fuel depth (.text true [c] :: taken)

end

/-- Reads a word, behind the pieces of it that were read already. -/
def word (nested : Substitution) : Nat → List Piece → Reader Word
  | 0, _ => tooLong
  | fuel + 1, taken => do
    match ← peek with
    | none => return gather taken []
    | some '\\' => word nested fuel ((← escaped fun _ => true) ++ taken)
    | some '\'' =>
      skip 1
      word nested fuel (← singleQuoted greatestLength (.quotes :: taken))
    | some '"' =>
      skip 1
      let found ← quoted nested greatestLength false []
      word nested fuel ((betweenQuotes found).reverse ++ taken)
    | some '$' =>
      skip 1
      word nested fuel ((← dollar nested greatestLength false) ++ taken)
    | some '`' =>
      skip 1
      word nested fuel ((← backquoted nested false) :: taken)
    | some c =>
      if endsWord c then return gather taken []
      else
        skip 1
        word nested fuel (.text false [c] :: taken)

/-- Reads the text of a document, behind the pieces of it that were read already. -/
def documentText (nested : Substitution) : Nat → List Piece → Reader Word
  | 0, _ => tooLong
  | fuel + 1, taken => do
    match ← peek with
    | none => return gather taken []
    | some '\\' => documentText nested fuel ((← escaped isEscapable) ++ taken)
    | some '$' =>
      skip 1
      documentText nested fuel ((← dollar nested greatestLength true) ++ taken)
    | some '`' =>
      skip 1
      documentText nested fuel ((← backquoted nested true) :: taken)
    | some c =>
      takeText c
      documentText nested fuel (.text true [c] :: taken)

/-- Reads the text of a document that stands for itself. -/
def plainText : Nat → List Piece → Reader Word
  | 0, _ => tooLong
  | fuel + 1, taken => do
    match ← look with
    | none => return gather taken []
    | some c =>
      takeText c
      plainText fuel (.text true [c] :: taken)

/-- Takes the texts of the documents that were announced. -/
def documents (nested : Substitution) : Nat → Reader Unit
  | 0 => tooLong
  | fuel + 1 => do
    match (← get).pending with
    | [] => return
    | (number, mark) :: more =>
      let outer ← get
      set { outer with
        pending := more, mark? := some mark, isClosed := false, nesting := outer.nesting + 1 }
      beginLine
      let body ← if mark.isPlain then plainText greatestLength []
        else documentText nested greatestLength []
      modify fun cursor =>
        { cursor with
          found := (number, body) :: cursor.found, lastWord := body
          mark? := outer.mark?, isClosed := outer.isClosed, nesting := outer.nesting }
      documents nested fuel

/-- Takes the part of a mark that is between double quotes, behind the first one. -/
def quotedMark : Nat → Octets → Reader Octets
  | 0, _ => tooLong
  | fuel + 1, taken => do
    match ← peek with
    | none => unclosed
    | some '"' =>
      skip 1
      return taken
    | some '\\' =>
      skip 1
      match ← look with
      | none => unclosed
      | some c =>
        skip 1
        quotedMark fuel (if isEscapable c || c == '"' then c :: taken else c :: '\\' :: taken)
    | some c =>
      skip 1
      quotedMark fuel (c :: taken)

/-- Takes the part of a mark that is between single quotes, behind the first one. -/
def singleQuotedMark : Nat → Octets → Reader Octets
  | 0, _ => tooLong
  | fuel + 1, taken => do
    match ← look with
    | none => unclosed
    | some c =>
      skip 1
      if c = '\'' then return taken else singleQuotedMark fuel (c :: taken)

/-- Takes the mark of a document, behind what was taken already, the last character first, with
whether a part of it is quoted. -/
def markText : Nat → Octets → Bool → Reader (Octets × Bool)
  | 0, _, _ => tooLong
  | fuel + 1, taken, isQuoted => do
    match ← peek with
    | none => return (taken.reverse, isQuoted)
    | some '\\' =>
      skip 1
      match ← look with
      | none => return (('\\' :: taken).reverse, isQuoted)
      | some c =>
        skip 1
        markText fuel (c :: taken) true
    | some '\'' =>
      skip 1
      markText fuel (← singleQuotedMark greatestLength taken) true
    | some '"' =>
      skip 1
      markText fuel (← quotedMark greatestLength taken) true
    | some c =>
      if endsWord c then return (taken.reverse, isQuoted)
      else
        skip 1
        markText fuel (c :: taken) (isQuoted || c == '`')

end Reader

end SyscallPolicy.Host.Shell
