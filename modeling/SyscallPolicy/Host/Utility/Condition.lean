import SyscallPolicy.Host.Utility.Basic

/-!
# Conditions

A condition is a row of words: signs with one operand or two, `!`, `-a` and `-o` from the
strongest to the weakest, and parentheses.  A word that could be a sign is an operand
where the words around it leave no other reading.
-/

namespace SyscallPolicy.Host.Utility

/-- A sign of a condition. -/
inductive Sign where
  | unary (letter : Char)
  | binary (name : String)
  | not
  | and
  | or
  | opens
  | closes
  deriving DecidableEq

/-- The letters of the signs with one operand. -/
def unaryLetters : List Char :=
  ['r', 'w', 'x', 'e', 'f', 'd', 'c', 'b', 'p', 'u', 'g', 'k', 's', 't', 'z', 'n', 'h', 'L', 'O',
   'G', 'S']

/-- The signs with two operands. -/
def binaryNames : List String :=
  ["=", "!=", "<", ">", "-eq", "-ne", "-ge", "-gt", "-le", "-lt", "-nt", "-ot", "-ef"]

/-- The sign that a word can be. -/
def sign? (word : Octets) : Option Sign :=
  match word with
  | ['!'] => some .not
  | ['('] => some .opens
  | [')'] => some .closes
  | ['-', 'a'] => some .and
  | ['-', 'o'] => some .or
  | ['-', letter] => if unaryLetters.contains letter then some (.unary letter) else none
  | _ =>
    let name := String.ofList word
    if binaryNames.contains name then some (.binary name) else none

/-- The name of the sign with two operands that the words begin with. -/
def binary? : List Octets → Option String
  | word :: _ =>
    match sign? word with
    | some (.binary name) => some name
    | _ => none
  | [] => none

/-- The sign that the first of these words is. -/
def read? : List Octets → Option Sign
  | [] => none
  | word :: rest =>
    match sign? word with
    | some (.unary letter) =>
      match rest with
      | [] => none
      | [_] => some (.unary letter)
      | _ => if (binary? rest).isSome then none else some (.unary letter)
    | some .opens => if rest.isEmpty then none else some .opens
    | found => found

/-- What a condition can ask about files. -/
structure Surveyed where
  view : View
  here : List String

namespace Surveyed

/-- What a path leads to. -/
def channel? (s : Surveyed) (path : Octets) : Option Channel :=
  (s.view.channelAt s.here path).toOption

/-- What is at the place of a file. -/
def nodeOf? (s : Surveyed) : Channel → Option FileNode
  | .file place => s.view.root.at? place
  | _ => none

/-- Whether a path leads to a link. -/
def isLink (s : Surveyed) (path : Octets) : Bool :=
  match { s.view.trail with followsLast := false }.find s.here (Octets.toText path) with
  | .ok found => (found.node matches .link _ | .descriptor _)
  | .error _ => false

/-- The time of the last change of a file. -/
def changed? (s : Surveyed) (path : Octets) : Option Nat :=
  (s.channel? path).map fun channel =>
    match s.nodeOf? channel with
    | some (.regular _ changed) => changed
    | _ => 0

/-- The integer that a word is. -/
def integer (word : Octets) : Except Octets Int :=
  match Octets.integer? word with
  | some n => .ok n
  | none => .error ("Illegal number: ".toList ++ word)

/-- What a sign with one operand says. -/
def unary (s : Surveyed) (letter : Char) (operand : Octets) : Except Octets Bool :=
  let channel? := s.channel? operand
  match letter with
  | 'n' => .ok (!operand.isEmpty)
  | 'z' => .ok operand.isEmpty
  | 't' => (integer operand).map fun _ => false
  | 'h' => .ok (s.isLink operand)
  | 'L' => .ok (s.isLink operand)
  | 'f' => .ok (channel? matches some (.file _))
  | 'd' => .ok (channel? matches some (.directory _))
  | 'c' => .ok (channel? matches some (.device _))
  | 'p' => .ok (channel? matches some (.source _) | some (.sink _))
  | 'x' =>
    match channel? with
    | some (.directory _) => .ok true
    | some channel => .ok (s.nodeOf? channel matches some (.program _))
    | none => .ok false
  | 's' =>
    match channel? with
    | some (.directory _) => .ok true
    | some channel => .ok ((s.nodeOf? channel).any fun node => 0 < node.stream.bytes.size)
    | none => .ok false
  | _ => .ok (['e', 'r', 'w', 'O', 'G'].contains letter && channel?.isSome)

/-- What a sign with two operands says. -/
def binary (s : Surveyed) (name : String) (left right : Octets) : Except Octets Bool :=
  let compare (holds : Int → Int → Bool) : Except Octets Bool := do
    return holds (← integer left) (← integer right)
  match name with
  | "=" => .ok (left == right)
  | "!=" => .ok (left != right)
  | "<" => .ok (Octets.before left right)
  | ">" => .ok (Octets.before right left)
  | "-eq" => compare (· == ·)
  | "-ne" => compare (· != ·)
  | "-ge" => compare fun m n => n ≤ m
  | "-gt" => compare fun m n => n < m
  | "-le" => compare fun m n => m ≤ n
  | "-lt" => compare fun m n => m < n
  | "-nt" =>
    match s.changed? left, s.changed? right with
    | some first, some second => .ok (second < first)
    | _, _ => .ok false
  | "-ot" =>
    match s.changed? left, s.changed? right with
    | some first, some second => .ok (first < second)
    | _, _ => .ok false
  | _ =>
    match s.channel? left, s.channel? right with
    | some first, some second => .ok (first.isSame second)
    | _, _ => .ok false

/-- The complaint about a parenthesis that is not closed. -/
def unclosed : Octets := "closing paren expected".toList

/-- What was found, and the words behind it. -/
abbrev Found := Except Octets (Bool × List Octets)

mutual

/-- Reads conditions with `-o` between them: what they say, and the words behind them. -/
def anyOf (s : Surveyed) : Nat → List Octets → Found
  | 0, _ => .error []
  | fuel + 1, words => do
    let (left, rest) ← allOf s fuel words
    if read? rest = some .or then
      let (right, rest) ← anyOf s fuel (rest.drop 1)
      return (left || right, rest)
    else return (left, rest)

/-- Reads conditions with `-a` between them. -/
def allOf (s : Surveyed) : Nat → List Octets → Found
  | 0, _ => .error []
  | fuel + 1, words => do
    let (left, rest) ← negated s fuel words
    if read? rest = some .and then
      let (right, rest) ← allOf s fuel (rest.drop 1)
      return (left && right, rest)
    else return (left, rest)

/-- Reads a condition with any number of `!` in front. -/
def negated (s : Surveyed) : Nat → List Octets → Found
  | 0, _ => .error []
  | fuel + 1, words =>
    if read? words = some .not then
      (negated s fuel (words.drop 1)).map fun (holds, rest) => (!holds, rest)
    else primary s fuel words

/-- Reads a condition without connectives.  One that is missing does not hold. -/
def primary (s : Surveyed) : Nat → List Octets → Found
  | 0, _ => .error []
  | fuel + 1, words =>
    match read? words, words with
    | _, [] => .ok (false, [])
    | some .opens, _ :: rest =>
      if read? rest = some .closes then .ok (false, rest.drop 1)
      else do
        let (holds, rest) ← anyOf s fuel rest
        if read? rest = some .closes then return (holds, rest.drop 1) else .error unclosed
    | some (.unary letter), _ :: operand :: rest =>
      (s.unary letter operand).map fun holds => (holds, rest)
    | some (.unary _), [word] => .error (word ++ ": argument expected".toList)
    | _, word :: rest =>
      match binary? rest with
      | some name =>
        match rest.drop 1 with
        | operand :: rest => (s.binary name word operand).map fun holds => (holds, rest)
        | [] => .error (rest.headD [] ++ ": argument expected".toList)
      | none => .ok (!word.isEmpty, rest)

end

/-- What words say as a whole; no words may be left behind it. -/
def whole (s : Surveyed) (words : List Octets) : Except Octets Bool := do
  let (holds, rest) ← anyOf s (8 * words.length + 8) words
  if rest.isEmpty then return holds
  else
    let last := (words.take (words.length - rest.length)).getLast?.getD []
    .error (last ++ ": unexpected operator".toList)

/-- What words say, or what is wrong with them.  Three words with a sign in the middle are
read in one way only; with three or four words, parentheses around them go away, and a `!`
in front negates them, as two do. -/
def holds (s : Surveyed) : List Octets → Except Octets Bool
  | [] => .ok false
  | [left, sign, right] =>
    match binary? [sign] with
    | some name => s.binary name left right
    | none =>
      if left = ['('] ∧ right = [')'] then s.whole [sign]
      else if left = ['!'] then (s.whole [sign, right]).map not
      else s.whole [left, sign, right]
  | [first, second, third, fourth] =>
    if first = ['('] ∧ fourth = [')'] then s.whole [second, third]
    else if first = ['!'] then
      match binary? [third] with
      | some name => (s.binary name second fourth).map not
      | none =>
        if second = ['('] ∧ fourth = [')'] then (s.whole [third]).map not
        else if second = ['!'] then (s.whole [third, fourth]).map not
        else (s.whole [second, third, fourth]).map not
    else s.whole [first, second, third, fourth]
  | words => s.whole words

end Surveyed

/-- Tells by its status whether a condition holds. -/
def test (call : Call) : Finished :=
  match ({ view := call.view, here := call.here } : Surveyed).holds call.args with
  | .ok holds => { status := if holds then 0 else 1 }
  | .error complaint => call.fail 2 complaint

/-- The same with a closing bracket. -/
def bracket (call : Call) : Finished :=
  if call.args.getLast? = some [']'] then test { call with args := call.args.dropLast }
  else call.fail 2 "missing ]".toList

end SyscallPolicy.Host.Utility
