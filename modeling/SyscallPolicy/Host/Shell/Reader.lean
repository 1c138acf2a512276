import SyscallPolicy.Host.Shell.Words

/-!
# Reading scripts

A script is read one line of commands at a time, so what a line does can change how the
next one is read, and a fault in a line is found only when it is reached.  A line goes on
as long as something in it is open.

Commands stand in each other: how those inside of a command are read is asked from a grammar,
and the last definitions tie the knot, with a bound on how deep commands can stand in each
other.
-/

namespace SyscallPolicy.Host.Shell

/-- Which kind of list of commands is read. -/
inductive ListKind where
  /-- A line of a script. -/
  | line
  /-- A part of a command, which is not empty. -/
  | body
  /-- A part of a command that may be empty. -/
  | inner
  deriving DecidableEq

/-- How the commands inside of a command are read. -/
structure Grammar where
  list : ListKind → Reader Script
  command : Lookout → Reader Script

namespace Reader

/-! ### Tokens -/

/-- Puts a token back. -/
def putBack (token : Token) : Reader Unit :=
  modify fun cursor => { cursor with pushed := some token }

/-- Says that a token cannot be where it is, maybe with what is expected there. -/
def unexpected {α : Type} (token : Token) (expected : String := "") : Reader α :=
  throw (token.shown ++ " unexpected" ++
    (if expected.isEmpty then "" else " (expecting " ++ expected ++ ")"))

/-- Skips blanks and a comment, and tells whether an alias ends meanwhile behind which the next
word may be an alias, too. -/
def skipBlanks : Nat → Bool → Reader Bool
  | 0, _ => tooLong
  | fuel + 1, isBehindBlank => do
    let next ← peek
    let isBehindBlank := isBehindBlank || (← get).source.isBehindBlank
    match next with
    | some '#' =>
      skip ((← get).source.rest.takeWhile (· != '\n')).length
      skipBlanks fuel isBehindBlank
    | some c =>
      if isBlank c then
        skip 1
        skipBlanks fuel isBehindBlank
      else return isBehindBlank
    | none => return isBehindBlank

/-- The number of a stream in front of a redirection, if the word there is none. -/
def streamNumber? (found : Word) : Option (Option Nat) :=
  match found with
  | [] => some none
  | [.text false [c]] => if c.isDigit then some (some (Octets.digitValue c)) else none
  | _ => none

/-- Takes the sign of a redirection, in front of which a number may stand. -/
def redirectionSign (number : Option Nat) : Reader Token := do
  let sign (standard : Nat) (kind : RedirectionKind) : Reader Token := do
    return .redirection (number.getD standard) kind
  if ← takes '>' then
    if ← takes '>' then sign 1 (.file .append)
    else if ← takes '|' then sign 1 (.file .clobber)
    else if ← takes '&' then sign 1 .copy
    else sign 1 (.file .write)
  else
    skip 1
    if ← takes '<' then sign 0 (.document (← takes '-'))
    else if ← takes '&' then sign 0 .copy
    else if ← takes '>' then sign 0 (.file .both)
    else sign 0 (.file .read)

/-- Takes a token where no blank is in front. -/
def takeToken (nested : Substitution) : Reader Token := do
  match ← peek with
  | none => return .ending
  | some '\n' =>
    skip 1
    return .newline
  | some '&' =>
    skip 1
    return .sign (if ← takes '&' then "&&" else "&")
  | some '|' =>
    skip 1
    return .sign (if ← takes '|' then "||" else "|")
  | some ';' =>
    skip 1
    return .sign (if ← takes ';' then ";;" else ";")
  | some '(' =>
    skip 1
    return .sign "("
  | some ')' =>
    skip 1
    return .sign ")"
  | _ =>
    let found ← word nested greatestLength []
    let next ← peek
    match if next == some '<' || next == some '>' then streamNumber? found else none with
    | some number => redirectionSign number
    | none =>
      modify fun cursor => { cursor with lastWord := found }
      return .word found

/-- The word with a meaning of its own that a word is. -/
def reserved? (found : Word) : Option String :=
  match found with
  | [.text false chars] =>
    let text := String.ofList chars
    if reserved.contains text then some text else none
  | _ => none

/-- The text of the alias that a word is, unless it is being read. -/
def alias? (found : Word) : Reader (Option (Octets × Octets)) := do
  let cursor ← get
  match found with
  | [.text false name] =>
    return if cursor.source.isInUse name then none
      else (cursor.aliases.lookup name).map fun text => (name, text)
  | _ => return none

/-- Takes the next token. -/
def next (nested : Substitution) : Nat → Lookout → Reader Token
  | 0, _ => tooLong
  | fuel + 1, lookout => do
    let (token, isBehindBlank) ←
      match (← get).pushed with
      | some token =>
        modify fun cursor => { cursor with pushed := none }
        pure (token, false)
      | none =>
        let isBehindBlank ← skipBlanks greatestLength false
        pure (← takeToken nested, isBehindBlank)
    match token with
    | .newline =>
      if lookout.skipsLines then
        documents nested greatestLength
        next nested fuel lookout
      else return token
    | .word found =>
      let lookout := { lookout with aliases := lookout.aliases || isBehindBlank }
      match if lookout.reserved then reserved? found else none with
      | some text => return .reserved text
      | none =>
        match ← if lookout.aliases then alias? found else pure none with
        | some (name, text) =>
          if !text.isEmpty then
            modify fun cursor => { cursor with source := cursor.source.replace name text }
          next nested fuel lookout
        | none => return token
    | _ => return token

end Reader

namespace Grammar

open Reader

/-- Reads the commands of a substitution. -/
def substitution (g : Grammar) : Substitution := fun isClosed => do
  if isClosed then
    let outer ← get
    set { outer with pending := [], mark? := none }
    let body ← g.list .inner
    let token := (← get).pushed.getD .ending
    if token.shown != (Token.sign ")").shown then unexpected token "\")\""
    modify fun cursor =>
      { cursor with pushed := none, pending := outer.pending, mark? := outer.mark? }
    return body
  else g.list .inner

/-- Takes the next token. -/
def next (g : Grammar) (lookout : Lookout := {}) : Reader Token :=
  Reader.next g.substitution greatestLength lookout

/-- Takes a token that must be there. -/
def expect (g : Grammar) (expected : Token) (lookout : Lookout := {}) : Reader Unit := do
  let token ← g.next lookout
  if token.shown != expected.shown then unexpected token expected.shown

/-- Takes the mark of a document, unless another token is there. -/
def mark (g : Grammar) : Reader (Octets × Bool) := do
  let _ ← skipBlanks greatestLength false
  match ← peek with
  | none => unexpected (← takeToken g.substitution)
  | some c =>
    if endsWord c then unexpected (← takeToken g.substitution)
    else
      let (text, isQuoted) ← markText greatestLength [] false
      let next ← peek
      if (next == some '<' || next == some '>') && text.length = 1 && text.all Char.isDigit
          && !isQuoted then
        unexpected (.redirection 0 .copy)
      else return (text, isQuoted)

/-- Reads what follows the sign of a redirection. -/
def redirection (g : Grammar) (descriptor : Nat) (kind : RedirectionKind) :
    Reader Redirection := do
  let target : Reader Word := do
    match ← g.next with
    | .word found => return found
    | token => unexpected token
  match kind with
  | .file opening => return .file descriptor opening (← target)
  | .copy => return .copy descriptor (← target)
  | .document stripsTabs =>
    let (text, isPlain) ← g.mark
    let cursor ← get
    set { cursor with
      announced := cursor.announced + 1, deepest := max cursor.deepest cursor.nesting
      pending := cursor.pending ++ [(cursor.announced, { text, stripsTabs, isPlain : Mark })] }
    return .document descriptor ((cursor.known.lookup cursor.announced).getD [])

/-- Reads the redirections behind a command, given those that were read, the last one first. -/
def redirections (g : Grammar) : Nat → Lookout → List Redirection → Reader (List Redirection)
  | 0, _, _ => tooLong
  | fuel + 1, lookout, taken => do
    match ← g.next lookout with
    | .redirection descriptor kind =>
      redirections g fuel {} ((← g.redirection descriptor kind) :: taken)
    | token =>
      putBack token
      return taken.reverse

/-! ### Commands -/

/-- The commands that cannot be defined anew, and words that are no names. -/
def functionName? (found : Word) : Option Octets :=
  match found with
  | [.text false name] =>
    if isName name && !specialCommands.contains (String.ofList name) then some name else none
  | _ => none

/-- Reads a simple command, given its parts so far, the last one first. -/
def simple (g : Grammar) (line : Nat) :
    Nat → List (Octets × Word) → List Word → List Redirection → Reader Script
  | 0, _, _, _ => tooLong
  | fuel + 1, assignments, words, redirections => do
    let finish (token : Token) : Reader Script := do
      putBack token
      return .simple line assignments.reverse words.reverse redirections.reverse
    match ← g.next { aliases := words.isEmpty } with
    | .word found =>
      match if words.isEmpty then assignment? found else none with
      | some assignment => simple g line fuel (assignment :: assignments) words redirections
      | none => simple g line fuel assignments (found :: words) redirections
    | .redirection descriptor kind =>
      let found ← g.redirection descriptor kind
      simple g line fuel assignments words (found :: redirections)
    | .sign "(" =>
      match assignments, words, redirections with
      | [], [name], [] =>
        g.expect (.sign ")")
        match functionName? name with
        | none => throw "Bad function name"
        | some name => return .define name (← g.command .commandBelow)
      | _, _, _ => finish (.sign "(")
    | token => finish token

/-- Reads the words of a loop, given those that were read, the last one first. -/
def items (g : Grammar) : Nat → List Word → Reader (List Word)
  | 0, _ => tooLong
  | fuel + 1, taken => do
    match ← g.next with
    | .word found => items g fuel (found :: taken)
    | .newline => return taken.reverse
    | .sign ";" => return taken.reverse
    | token => unexpected token

/-- Reads a loop over words behind its first word. -/
def each (g : Grammar) (line : Nat) : Reader Script := do
  let name ← match ← g.next with
    | .word [.text false name] => pure name
    | _ => throw "Bad for loop variable"
  if !isName name then throw "Bad for loop variable"
  let words ← match ← g.next .commandBelow with
    | .reserved "in" => g.items greatestLength []
    | token =>
      match token with
      | .sign ";" => pure ()
      | _ => putBack token
      pure [[.parameter true ['@'] .value]]
  g.expect (.reserved "do") .commandBelow
  return .each line name words (← g.list .body)

/-- Reads the patterns of a branch from its first token on, up to the parenthesis behind them.
A token that is no word leaves the last word in its place. -/
def patterns (g : Grammar) : Nat → List Word → Reader (List Word)
  | 0, _ => tooLong
  | fuel + 1, taken => do
    let taken := (← get).lastWord :: taken
    match ← g.next with
    | .sign "|" =>
      let _ ← g.next
      patterns g fuel taken
    | .sign ")" => return taken.reverse
    | token => unexpected token "\")\""

/-- Reads the branches of a selection, up to the word that ends them. -/
def branches (g : Grammar) : Nat → List Branch → Reader (List Branch)
  | 0, _ => tooLong
  | fuel + 1, taken => do
    let first ← g.next { skipsLines := true, reserved := true }
    match first with
    | .reserved "esac" => return taken.reverse
    | _ =>
      match first with
      | .sign "(" =>
        let _ ← g.next
      | _ => pure ()
      let patterns ← g.patterns greatestLength []
      let taken := .mk patterns (← g.list .inner) :: taken
      match ← g.next { skipsLines := true, reserved := true } with
      | .reserved "esac" => return taken.reverse
      | .sign ";;" => branches g fuel taken
      | token => unexpected token "\";;\""

/-- Reads a selection behind its first word. -/
def selection (g : Grammar) (line : Nat) : Reader Script := do
  let subject ← match ← g.next with
    | .word found => pure found
    | token => unexpected token "word"
  g.expect (.reserved "in") .commandBelow
  return .select line subject (← g.branches greatestLength [])

/-- Reads a choice behind its first word, up to the word that ends it. -/
def choice (g : Grammar) : Nat → Reader Script
  | 0 => tooLong
  | fuel + 1 => do
    let condition ← g.list .body
    g.expect (.reserved "then")
    let yes ← g.list .body
    match ← g.next with
    | .reserved "elif" => return .choose condition yes (← choice g fuel)
    | .reserved "else" => return .choose condition yes (← g.list .body)
    | token =>
      putBack token
      return .choose condition yes .skip

/-- Reads a loop with a condition behind its first word. -/
def loop (g : Grammar) (untilTrue : Bool) : Reader Script := do
  let condition ← g.list .body
  g.expect (.reserved "do")
  return .loop untilTrue condition (← g.list .body)

/-- Adds the redirections behind a command that is made of others. -/
def withRedirections (g : Grammar) (line : Nat) (body : Script) : Reader Script := do
  match ← g.redirections greatestLength .command [] with
  | [] => return body
  | found =>
    match body with
    | .subshell line body _ => return .subshell line body found
    | _ => return .redirected line body found

/-- Reads a command that is not several ones in a row. -/
def single (g : Grammar) (lookout : Lookout) : Reader Script := do
  let line := (← get).source.line
  let ended (closer : Token) (body : Script) : Reader Script := do
    g.expect closer
    g.withRedirections line body
  match ← g.next lookout with
  | .reserved "if" => ended (.reserved "fi") (← g.choice greatestLength)
  | .reserved "while" => ended (.reserved "done") (← g.loop false)
  | .reserved "until" => ended (.reserved "done") (← g.loop true)
  | .reserved "for" => ended (.reserved "done") (← g.each line)
  | .reserved "case" => g.withRedirections line (← g.selection line)
  | .sign "(" => ended (.sign ")") (.subshell line (← g.list .body) [])
  | .reserved "\x7b" => ended (.reserved "\x7d") (← g.list .body)
  | .word found =>
    putBack (.word found)
    g.simple (← get).source.line greatestLength [] [] []
  | .redirection descriptor kind =>
    putBack (.redirection descriptor kind)
    g.simple (← get).source.line greatestLength [] [] []
  | token => unexpected token

/-- Reads the stages of a pipe behind the first ones, which come with the last one first. -/
def stages (g : Grammar) : Nat → List Script → Reader (List Script)
  | 0, _ => tooLong
  | fuel + 1, taken => do
    match ← g.next with
    | .sign "|" => stages g fuel ((← g.single .commandBelow) :: taken)
    | token =>
      putBack token
      return taken.reverse

/-- Reads a pipe, maybe with a negation in front. -/
def pipeline (g : Grammar) (lookout : Lookout) : Reader Script := do
  let token ← g.next lookout
  let isNegated := token.shown == (Token.reserved "!").shown
  if !isNegated then putBack token
  let first ← g.single (if isNegated then .command else {})
  let body ← match ← g.stages greatestLength [first] with
    | [body] => pure body
    | stages => pure (.pipe stages)
  return if isNegated then .negate body else body

/-- Reads pipelines with `&&` and `||` between them, which group to the left, behind the first
ones. -/
def chain (g : Grammar) : Nat → Script → Reader Script
  | 0, _ => tooLong
  | fuel + 1, first => do
    match ← g.next with
    | .sign "&&" => chain g fuel (.both first (← g.pipeline .commandBelow))
    | .sign "||" => chain g fuel (.either first (← g.pipeline .commandBelow))
    | token =>
      putBack token
      return first

/-- Commands one after the other, given with the last one first. -/
def inOrder (commands : List Script) : Script :=
  commands.foldl (fun rest first => first.andThen rest) .skip

/-- Reads a list of commands, given those that were read, the last one first. -/
def commands (g : Grammar) (kind : ListKind) : Nat → List Script → Reader Script
  | 0, _ => tooLong
  | fuel + 1, taken => do
    let token ← g.next { Lookout.commandBelow with skipsLines := kind != .line }
    let finish (taken : List Script) : Reader Script := do
      documents g.substitution greatestLength
      putBack .ending
      return inOrder taken
    match token with
    | .newline =>
      documents g.substitution greatestLength
      return inOrder taken
    | .ending => finish taken
    | _ =>
      putBack token
      let mayEnd := kind == .inner || (kind == .body && !taken.isEmpty)
      if mayEnd && token.closesList then return inOrder taken
      let first ← g.chain greatestLength (← g.pipeline {})
      match ← g.next with
      | .sign "&" => commands g kind fuel (.background first :: taken)
      | .sign ";" => commands g kind fuel (first :: taken)
      | .newline =>
        putBack .newline
        commands g kind fuel (first :: taken)
      | .ending => finish (first :: taken)
      | token =>
        if kind = .line then unexpected token
        putBack token
        return inOrder (first :: taken)

end Grammar

mutual

/-- Reads a list of commands in which others stand up to a depth. -/
def readList : Nat → ListKind → Reader Script
  | 0, _ => throw "commands too deep"
  | depth + 1, kind =>
    Grammar.commands { list := readList depth, command := readCommand depth } kind greatestLength []

/-- Reads a command in which others stand up to a depth. -/
def readCommand : Nat → Lookout → Reader Script
  | 0, _ => throw "commands too deep"
  | depth + 1, lookout =>
    Grammar.single { list := readList depth, command := readCommand depth } lookout

end

/-- How deep scripts can stand in each other. -/
def greatestDepth : Nat := 10000

/-- What is at the front of a script. -/
inductive Line where
  /-- Nothing is left. -/
  | nothing
  /-- Something is wrong in a line with a number. -/
  | broken (line : Nat) (reason : String)
  /-- Commands, whether the text ends right behind them, and what follows them. -/
  | commands (script : Script) (isLast : Bool) (rest : Source)

/-- Reads a line, with the texts of its documents as they were found so far, and as often again
as documents stand in each other. -/
def readLine (aliases : Aliases) (s : Source) (known : List (Nat × Word)) :
    Nat → Except String Script × Cursor
  | 0 => (readList greatestDepth .line).run.run { source := s, known, aliases }
  | again + 1 =>
    let (found, cursor) := (readList greatestDepth .line).run.run { source := s, known, aliases }
    if cursor.announced = 0 then (found, cursor)
    else readLine aliases s cursor.found (min again cursor.deepest)

/-- Reads the line at the front of a script, and tells whether it matters that nothing follows
the text. -/
def nextLine (aliases : Aliases) (s : Source) : Line × Bool :=
  let (found, cursor) := readLine aliases s [] greatestDepth
  let line : Line :=
    match found with
    | .error reason => .broken cursor.source.line reason
    | .ok script =>
      if script.isSkip && cursor.pushed.isSome then .nothing
      else .commands script cursor.pushed.isSome cursor.source
  (line, cursor.sawEnd)

end SyscallPolicy.Host.Shell
