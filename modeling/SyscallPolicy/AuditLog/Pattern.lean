import SyscallPolicy.AuditLog.Record

/-!
# The pattern of a record

The same records as a search pattern with ordered choice: a run takes as many characters
as it can and gives them back one by one, the earlier of two alternatives goes first, and
the search takes the leftmost place where the pattern fits.  `results` lists the ways to
fit a pattern, the preferred one first, so a search is a look at the head of that list.
The pattern says what a record is without a word on how to find one.
-/

namespace SyscallPolicy.AuditLog

open Text (isDecimal isWord)

/-- A pattern over characters. -/
inductive Pattern where
  /-- This text. -/
  | literal (text : List Char)
  /-- One of these texts, the first that serves. -/
  | oneOf (texts : List (List Char))
  /-- One character of a class or more, as many as serve. -/
  | run (member : Char → Bool)
  /-- A place between a word character and something else. -/
  | boundary
  /-- A part that is to be reported. -/
  | capture (inner : Pattern)
  /-- One pattern after the other. -/
  | seq (first second : Pattern)

/-- How far a match has come. -/
structure Progress where
  /-- The character just passed. -/
  before : Option Char
  /-- The characters still to come. -/
  ahead : List Char
  /-- The reported part. -/
  captured : Option (List Char)
  deriving DecidableEq, Repr

namespace Progress

/-- Goes on by `n` characters. -/
def advance (p : Progress) (n : Nat) : Progress :=
  { p with before := (p.ahead.take n).getLast?.or p.before, ahead := p.ahead.drop n }

/-- Whether there is a word character on exactly one side. -/
def atBoundary (p : Progress) : Bool :=
  (p.before.any isWord) != (p.ahead.head?.any isWord)

end Progress

namespace Pattern

/-- The ways to fit a literal text: one or none. -/
def literalResults (text : List Char) (p : Progress) : List Progress :=
  if text.isPrefixOf p.ahead then [p.advance text.length] else []

/-- The ways to fit a pattern, in order of preference. -/
def results : Pattern → Progress → List Progress
  | .literal text, p => literalResults text p
  | .oneOf texts, p => texts.flatMap fun text => literalResults text p
  | .run member, p =>
    (List.range (p.ahead.takeWhile member).length).reverse.map fun n => p.advance (n + 1)
  | .boundary, p => if p.atBoundary then [p] else []
  | .capture inner, p =>
    (results inner p).map fun q =>
      { q with captured := some (p.ahead.take (p.ahead.length - q.ahead.length)) }
  | .seq first second, p => (results first p).flatMap fun q => results second q

/-- The preferred way to fit a pattern at the leftmost place where it fits. -/
def searchFrom (pattern : Pattern) (before : Option Char) : List Char → Option Progress
  | [] => (results pattern ⟨before, [], none⟩).head?
  | c :: rest =>
    match (results pattern ⟨before, c :: rest, none⟩).head? with
    | some found => some found
    | none => searchFrom pattern (some c) rest

/-- The part of a line that a search reports. -/
def search? (pattern : Pattern) (line : List Char) : Option (List Char) :=
  (searchFrom pattern none line).bind (·.captured)

/-- One pattern after the other, for several. -/
def inOrder : List Pattern → Pattern
  | [] => .literal []
  | [pattern] => pattern
  | pattern :: rest => .seq pattern (inOrder rest)

/-- The pattern of a record for the processes with these numbers. -/
def ofRecord (processes : List (List Char)) : Pattern :=
  inOrder [.literal mark, .run (· ≠ '\n'), .boundary, .literal processLabel, .oneOf processes,
    .boundary, .run (· ≠ '\n'), .boundary, .literal syscallLabel, .capture (.run isDecimal),
    .boundary]

end Pattern

end SyscallPolicy.AuditLog
