import SyscallPolicy.Host.Octets

/-!
# Scripts

What a script is once it was read.  A word is made of plain text, parameters, command
substitutions and arithmetic, each quoted or not.  Commands are simple ones with
assignments and redirections, and those that are made of others.  Some of them know the line
that they begin in, so that complaints can name it.
-/

namespace SyscallPolicy.Host.Shell

/-- When something else is used for a parameter. -/
inductive Fallback where
  /-- In place of a value that is missing. -/
  | instead
  /-- In place of a value that is missing, which is then set. -/
  | assign
  /-- A complaint if the value is missing. -/
  | complain
  /-- In place of a value that is there. -/
  | replace
  deriving DecidableEq

/-- How a file is opened. -/
inductive Opening where
  | read
  | write
  | append
  | both
  /-- For writing, even where files are not to be overwritten. -/
  | clobber
  deriving DecidableEq

mutual

/-- A piece of a word. -/
inductive Piece where
  | text (isQuoted : Bool) (chars : Octets)
  /-- A pair of quotes: the word is there even if it is empty. -/
  | quotes
  | parameter (isQuoted : Bool) (name : Octets) (use : Use)
  | substitution (isQuoted : Bool) (body : Script)
  | arithmetic (isQuoted : Bool) (expression : List Piece)

/-- What is made of the value of a parameter. -/
inductive Use where
  | value
  | length
  /-- Something else is used; an empty value counts as missing if `orEmpty`. -/
  | fallback (kind : Fallback) (orEmpty : Bool) (word : List Piece)
  /-- A part of the value that a pattern fits goes away, at one of its ends. -/
  | trim (atEnd isLongest : Bool) (pattern : List Piece)
  /-- It makes no sense. -/
  | nonsense

/-- A redirection of a descriptor. -/
inductive Redirection where
  | file (descriptor : Nat) (opening : Opening) (path : List Piece)
  | copy (descriptor : Nat) (source : List Piece)
  | document (descriptor : Nat) (body : List Piece)

/-- A script, or a part of one. -/
inductive Script where
  /-- Nothing at all. -/
  | skip
  | simple (line : Nat) (assignments : List (Octets × List Piece)) (words : List (List Piece))
      (redirections : List Redirection)
  | redirected (line : Nat) (body : Script) (redirections : List Redirection)
  | pipe (stages : List Script)
  | negate (body : Script)
  | both (left right : Script)
  | either (left right : Script)
  | sequence (left right : Script)
  | background (body : Script)
  /-- Commands in an environment of their own. -/
  | subshell (line : Nat) (body : Script) (redirections : List Redirection)
  | choose (condition yes no : Script)
  | loop (untilTrue : Bool) (condition body : Script)
  | each (line : Nat) (name : Octets) (items : List (List Piece)) (body : Script)
  | select (line : Nat) (subject : List Piece) (branches : List Branch)
  | define (name : Octets) (body : Script)

/-- A branch of a selection. -/
inductive Branch where
  | mk (patterns : List (List Piece)) (body : Script)

end

instance : Inhabited Script := ⟨.skip⟩

/-- A word is its pieces. -/
abbrev Word := List Piece

/-- Whether a script is nothing at all. -/
def Script.isSkip : Script → Bool
  | skip => true
  | _ => false

/-- Two scripts one after the other. -/
def Script.andThen (first second : Script) : Script :=
  if second.isSkip then first else sequence first second

/-- Whether a character can begin a name. -/
def beginsName (c : Char) : Bool :=
  c.isAlpha || c == '_'

/-- Whether a character can be in a name. -/
def isInName (c : Char) : Bool :=
  c.isAlphanum || c == '_'

/-- Whether a text is a name. -/
def isName (text : Octets) : Bool :=
  match text with
  | c :: rest => beginsName c && rest.all isInName
  | [] => false

/-- Whether a character is a parameter by itself, apart from digits. -/
def isSpecial (c : Char) : Bool :=
  ['@', '*', '#', '?', '-', '$', '!'].contains c

/-- The name and the value of a word that is an assignment. -/
def assignment? (word : Word) : Option (Octets × Word) :=
  match word with
  | .text false chars :: rest =>
    let name := chars.takeWhile isInName
    match chars.drop name.length with
    | '=' :: value =>
      if isName name then
        some (name, if value.isEmpty then rest else .text false value :: rest)
      else none
    | _ => none
  | _ => none

/-- The words that have a meaning of their own where a command begins. -/
def reserved : List String :=
  ["!", "case", "do", "done", "elif", "else", "esac", "fi", "for", "if", "in", "then", "until",
   "while", "\x7b", "\x7d"]

/-- The reserved words that end a part of a command. -/
def closers : List String :=
  ["do", "done", "elif", "else", "esac", "fi", "then", "\x7d"]

/-- The commands that cannot be defined anew; an error in one of them ends a script. -/
def specialCommands : List String :=
  [".", ":", "break", "continue", "eval", "exec", "exit", "export", "local", "readonly",
   "return", "set", "shift", "times", "trap", "unset"]

end SyscallPolicy.Host.Shell
