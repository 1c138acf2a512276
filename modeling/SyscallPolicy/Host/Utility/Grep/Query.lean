import SyscallPolicy.Host.Regex.Ordered.Reader
import SyscallPolicy.Host.Regex.Reader

/-!
# Looking for patterns in a line

A match begins as far to the left as it can.  Where patterns stand for sets of texts it is
then as long as it can be, and may be asked to be a word or the whole line; where the ways
to match are tried in order, the first one counts.
-/

namespace SyscallPolicy.Host.Utility.Grep

/-- What a match must be. -/
inductive Extent where
  | any
  | word
  | line
  deriving DecidableEq

/-- What is looked for. -/
inductive Engine where
  /-- Any of some patterns. -/
  | plain (patterns : List Regex) (extent : Extent)
  /-- A pattern whose ways are tried in order. -/
  | ordered (root : Regex.Ordered)

/-- A search in lines. -/
structure Query where
  engine : Engine
  ignoresCase : Bool := false

namespace Query

open Regex (Subject)

/-- A line as it is searched.  A pattern whose ways are tried in order knows by itself which
case counts. -/
def subject (q : Query) (line : Octets) : Subject :=
  match q.engine with
  | .plain _ _ => ⟨line.toArray, q.ignoresCase⟩
  | .ordered _ => ⟨line.toArray, false⟩

/-- Whether a match is a word. -/
def isWord (s : Subject) (start stop : Nat) : Bool :=
  !s.hasWordBefore start && !s.hasWordAt stop

/-- Where the longest match ends that begins at an index, is of an extent and does not end
before another index.  A word is not empty if it could be longer. -/
def end? (extent : Extent) (s : Subject) (start : Nat) (r : Regex) : Option Nat :=
  let ends := r.ends s start
  match extent with
  | .any => ends.max?
  | .line => if start = 0 && ends.contains s.chars.size then some s.chars.size else none
  | .word =>
    match ends.max? with
    | none => none
    | some longest =>
      if longest = start then (if isWord s start start then some start else none)
      else (ends.filter fun stop => start < stop && isWord s start stop).max?

/-- The first match of patterns that begins at an index or behind it. -/
def plainFrom (patterns : List Regex) (extent : Extent) (s : Subject) :
    Nat → Nat → Regex.Ordered.Hit
  | 0, _ => .nothing
  | fuel + 1, start =>
    if s.chars.size < start then .nothing
    else
      match (patterns.filterMap (end? extent s start)).max? with
      | some stop => .at start stop
      | none => plainFrom patterns extent s fuel (start + 1)

/-- The first match in a line that begins at an index or behind it. -/
def hitFrom (q : Query) (s : Subject) (start : Nat) : Regex.Ordered.Hit :=
  match q.engine with
  | .plain patterns extent => plainFrom patterns extent s (s.chars.size + 2) start
  | .ordered root => root.search s start

/-- What looking for a match in a line comes to. -/
inductive Verdict where
  | found
  | missing
  /-- The search was given up. -/
  | tooMuch
  deriving DecidableEq

/-- Whether there is a match in a line. -/
def judge (q : Query) (line : Octets) : Verdict :=
  let s := q.subject line
  match q.engine with
  | .plain patterns .any => if patterns.any fun r => r.isIn s then .found else .missing
  | .plain patterns .line =>
    if patterns.any fun r => (end? .line s 0 r).isSome then .found else .missing
  | _ =>
    match q.hitFrom s 0 with
    | .at _ _ => .found
    | .nothing => .missing
    | .tooMuch => .tooMuch

/-- The matches of a line that are not empty, from an index on: where they begin and end. -/
def hitsFrom (q : Query) (s : Subject) : Nat → Nat → List (Nat × Nat)
  | 0, _ => []
  | fuel + 1, index =>
    if s.chars.size < index then []
    else
      match q.hitFrom s index with
      | .at start stop =>
        if start < stop then (start, stop) :: q.hitsFrom s fuel stop
        else q.hitsFrom s fuel (start + 1)
      | _ => []

/-- The matches of a line that are not empty: where they begin and end. -/
def hits (q : Query) (line : Octets) : List (Nat × Nat) :=
  q.hitsFrom (q.subject line) (line.length + 2) 0

end Query

end SyscallPolicy.Host.Utility.Grep
