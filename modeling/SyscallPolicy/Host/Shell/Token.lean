import SyscallPolicy.Host.Shell.Source
import SyscallPolicy.Host.Shell.Syntax

/-!
# Tokens of scripts

A script is a row of tokens.  A reader takes them from what is left of the text, and gives a
result or says what is wrong.  It can put one token back.

A redirection can announce a document, whose text begins behind the line.  Since the
announcement is read first, a line with documents is read more than once: to find their texts,
and with the texts at hand.
-/

namespace SyscallPolicy.Host.Shell

/-- What the sign of a redirection is for. -/
inductive RedirectionKind where
  | file (opening : Opening)
  | copy
  /-- Tabs in front of the lines of a document may go away. -/
  | document (stripsTabs : Bool)

/-- A token. -/
inductive Token where
  | ending
  | newline
  | sign (text : String)
  | redirection (descriptor : Nat) (kind : RedirectionKind)
  | word (word : Word)
  /-- A word with a meaning of its own. -/
  | reserved (text : String)

/-- A token in a complaint. -/
def Token.shown : Token → String
  | ending => "end of file"
  | newline => "newline"
  | sign text => "\"" ++ text ++ "\""
  | redirection .. => "redirection"
  | word _ => "word"
  | reserved text => "\"" ++ text ++ "\""

/-- Whether a token ends a list of commands inside of a command. -/
def Token.closesList : Token → Bool
  | ending => true
  | sign text => text = ")" || text = ";;"
  | reserved text => closers.contains text
  | _ => false

/-- What is looked for when a token is taken. -/
structure Lookout where
  /-- Whether line ends are skipped. -/
  skipsLines : Bool := false
  /-- Whether words can have a meaning of their own. -/
  reserved : Bool := false
  /-- Whether words can be aliases. -/
  aliases : Bool := false

/-- What is looked for where a command begins. -/
def Lookout.command : Lookout :=
  { reserved := true, aliases := true }

/-- What is looked for where a command begins, maybe on another line. -/
def Lookout.commandBelow : Lookout :=
  { skipsLines := true, reserved := true, aliases := true }

/-- The line that ends a document, and how the document is read. -/
structure Mark where
  text : Octets
  /-- Whether tabs in front of lines go away. -/
  stripsTabs : Bool
  /-- Whether the text of the document stands for itself. -/
  isPlain : Bool

/-- Where a reader is. -/
structure Cursor where
  source : Source
  aliases : Aliases
  /-- A token that was put back. -/
  pushed : Option Token := none
  /-- The word that was read last. -/
  lastWord : Word := []
  /-- Documents whose texts are still to come, by number. -/
  pending : List (Nat × Mark) := []
  /-- How many documents were announced. -/
  announced : Nat := 0
  /-- The texts that were found in this reading, by number. -/
  found : List (Nat × Word) := []
  /-- The texts that were found in an earlier one. -/
  known : List (Nat × Word) := []
  /-- How many documents are around. -/
  nesting : Nat := 0
  /-- The greatest number of documents around an announcement. -/
  deepest : Nat := 0
  /-- The document that is being read. -/
  mark? : Option Mark := none
  /-- Whether its end was found. -/
  isClosed : Bool := false
  /-- Whether it matters that nothing follows the text. -/
  sawEnd : Bool := false

/-- A reader gives a result, or says what is wrong. -/
abbrev Reader := ExceptT String (StateM Cursor)

namespace Reader

/-- Says that a text is too long, which does not happen. -/
def tooLong {α : Type} : Reader α := throw "text too long"

/-- The next character. -/
def look : Reader (Option Char) := do
  let cursor ← get
  if cursor.isClosed then return none
  match cursor.source.rest with
  | [] =>
    set { cursor with sawEnd := true }
    return none
  | c :: _ => return some c

/-- Leaves out escaped line ends. -/
def join : Reader Unit :=
  modify fun cursor =>
    if cursor.isClosed then cursor
    else
      match cursor.source.rest with
      | ['\\'] => { cursor with sawEnd := true }
      | '\\' :: '\n' :: _ => { cursor with source := cursor.source.joined }
      | _ => cursor

/-- The next character behind escaped line ends. -/
def peek : Reader (Option Char) := do
  join
  look

/-- Whether a character comes next, behind escaped line ends. -/
def sees (c : Char) : Reader Bool := do
  return (← peek) == some c

/-- Leaves out so many characters. -/
def skip (count : Nat) : Reader Unit :=
  modify fun cursor => { cursor with source := cursor.source.drop count }

/-- Takes a character if it comes next, behind escaped line ends, and tells whether it did. -/
def takes (c : Char) : Reader Bool := do
  if ← sees c then
    skip 1
    return true
  else return false

/-- Takes characters of a kind, behind those that were taken already. -/
def takeWhile (isSo : Char → Bool) : Nat → Octets → Reader Octets
  | 0, _ => tooLong
  | fuel + 1, taken => do
    match ← peek with
    | some c =>
      if isSo c then
        skip 1
        takeWhile isSo fuel (c :: taken)
      else return taken.reverse
    | none => return taken.reverse

/-- Looks for the end of the document that is being read, where a line begins. -/
def beginLine : Reader Unit := do
  match (← get).mark? with
  | none => return
  | some mark =>
    if !mark.isPlain then join
    if mark.stripsTabs then skip ((← get).source.rest.takeWhile (· == '\t')).length
    let rest := (← get).source.rest
    if rest.length ≤ mark.text.length then modify fun cursor => { cursor with sawEnd := true }
    let behind := rest.drop mark.text.length
    if mark.text.isPrefixOf rest && behind.head?.all (· == '\n') then
      skip (mark.text.length + 1)
      modify fun cursor => { cursor with isClosed := true }

/-- Takes a character that stands for itself. -/
def takeText (c : Char) : Reader Unit := do
  skip 1
  if c = '\n' then beginLine

/-- Reads something from a text of its own.  What follows it in that text is of no account. -/
def within {α : Type} (text : Octets) (reader : Reader α) : Reader α := do
  let outer ← get
  set { outer with
    source := outer.source.inside text, pushed := none, pending := [], mark? := none }
  let found ← reader
  modify fun inner =>
    { inner with
      source := outer.source, pushed := none, pending := outer.pending, mark? := outer.mark?
      isClosed := outer.isClosed, sawEnd := outer.sawEnd }
  return found

end Reader

end SyscallPolicy.Host.Shell
