import SyscallPolicy.Toml.Lexeme
import SyscallPolicy.Toml.Scalar
import SyscallPolicy.Toml.Tree

/-!
# Reading TOML

A document is a sequence of lines: empty ones, comments, headers, and keys with values.
A byte order mark may stand in front.  Arrays go over several lines and may end with a
comma; inline tables do neither.  Values nest to a depth of `maxDepth`, and keys have at
most that many parts.  The fuel of the nested functions is spent once a step, and the
outermost calls are given more than any text of that length can spend.
-/

namespace SyscallPolicy.Toml

namespace Reader

open Lexeme (endOfLine? keyParts lineFeed? skipBlanks skipComment skipLines)

/-- How deep values nest, and how many parts a key has, at most. -/
def maxDepth : Nat := 79

/-- The path and the last part of a key. -/
def splitKey (parts : List String) : Option (List String × String) :=
  if parts.length ≤ maxDepth then parts.getLast?.map fun key => (parts.dropLast, key) else none

/-- Reads a key. -/
def key (s : List Char) : Option ((List String × String) × List Char) := do
  let (parts, rest) ← keyParts (s.length + 1) s
  return (← splitKey parts, rest)

/-- The text without the blanks, comments and line ends at its front; a comment counts
only with its line end. -/
def skipSpace : Nat → List Char → List Char
  | 0, s => s
  | fuel + 1, s =>
    let s := skipLines s
    match s with
    | '#' :: _ =>
      match lineFeed? (skipComment s) with
      | some rest => skipSpace fuel rest
      | none => s
    | _ => s

mutual

/-- Reads a value that may nest to this depth. -/
def value : Nat → Nat → List Char → Option (Toml × List Char)
  | 0, _, _ => none
  | fuel + 1, depth, s =>
    match s with
    | '[' :: rest =>
      if depth = 0 then none
      else (items fuel (depth - 1) rest).map fun (found, rest) => (.array found, rest)
    | '\x7b' :: rest =>
      if depth = 0 then none
      else
        match skipBlanks rest with
        | '\x7d' :: rest => some (.table [], rest)
        | rest => do
          let (pairs, rest) ← inlinePairs fuel (depth - 1) rest
          return (← tableOf? pairs [], rest)
    | '"' :: _ => (Lexeme.string s).map fun (found, rest) => (.string (String.ofList found), rest)
    | '\'' :: _ => (Lexeme.string s).map fun (found, rest) => (.string (String.ofList found), rest)
    | _ => Scalar.scalar s

/-- Reads the items of an array and the bracket that closes it. -/
def items : Nat → Nat → List Char → Option (List Toml × List Char)
  | 0, _, _ => none
  | fuel + 1, depth, s =>
    match skipSpace (s.length + 1) s with
    | ']' :: rest => some ([], rest)
    | rest => do
      let (item, rest) ← value fuel depth rest
      match skipSpace (rest.length + 1) rest with
      | ']' :: rest => some ([item], rest)
      | ',' :: rest =>
        let (found, rest) ← items fuel depth rest
        some (item :: found, rest)
      | _ => none

/-- Reads the pairs of an inline table and the brace that closes it. -/
def inlinePairs : Nat → Nat → List Char → Option (List Pair × List Char)
  | 0, _, _ => none
  | fuel + 1, depth, s => do
    let ((path, last), rest) ← key s
    match rest with
    | '=' :: rest =>
      let (found, rest) ← value fuel depth (skipBlanks rest)
      match skipBlanks rest with
      | '\x7d' :: rest => some ([⟨path, last, found⟩], rest)
      | ',' :: rest =>
        let (pairs, rest) ← inlinePairs fuel depth rest
        some (⟨path, last, found⟩ :: pairs, rest)
      | _ => none
    | _ => none

end

/-- What a line holds. -/
inductive Statement where
  | pair (pair : Pair)
  | header (isArray : Bool) (path : List String) (key : String)

/-- Reads a key and its value. -/
def pair (s : List Char) : Option (Pair × List Char) := do
  let ((path, last), rest) ← key s
  match rest with
  | '=' :: rest =>
    let (found, rest) ← value (2 * rest.length + 2) maxDepth (skipBlanks rest)
    return (⟨path, last, found⟩, rest)
  | _ => none

/-- Reads a line that holds something. -/
def statement : List Char → Option (Statement × List Char)
  | '[' :: '[' :: rest => do
    let ((path, last), rest) ← key rest
    match rest with
    | ']' :: ']' :: rest => some (.header true path last, rest)
    | _ => none
  | '[' :: rest => do
    let ((path, last), rest) ← key rest
    match rest with
    | ']' :: rest => some (.header false path last, rest)
    | _ => none
  | s => (pair s).map fun (found, rest) => (.pair found, rest)

/-- Reads the lines of a document. -/
def statements : Nat → List Char → Option (List Statement)
  | 0, _ => none
  | fuel + 1, s =>
    match skipBlanks s with
    | [] => some []
    | '#' :: _ => do statements fuel (← endOfLine? s)
    | s =>
      match lineFeed? s with
      | some rest => statements fuel rest
      | none => do
        let (found, rest) ← statement s
        let more ← statements fuel (← endOfLine? rest)
        return found :: more

/-- The pairs in front of the first header, and the sections. -/
def sections : List Statement → List Pair × List Section
  | [] => ([], [])
  | .pair pair :: rest => (pair :: (sections rest).1, (sections rest).2)
  | .header isArray path key :: rest =>
    ([], ⟨isArray, path, key, (sections rest).1⟩ :: (sections rest).2)

/-- The text without a byte order mark. -/
def skipMark : List Char → List Char
  | '\uFEFF' :: rest => rest
  | s => s

end Reader

/-- The table that a text stands for. -/
def read? (text : List Char) : Option Toml := do
  let s := Reader.skipMark text
  let found := Reader.sections (← Reader.statements (s.length + 1) s)
  tableOf? found.1 found.2

end SyscallPolicy.Toml
