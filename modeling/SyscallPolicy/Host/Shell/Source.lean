import SyscallPolicy.Host.Octets

/-!
# The text of a script

What is left to read of a script.  The text of an alias is put in front of what is left, and is
remembered as a layer until all of it is read: an alias is not replaced inside of its own text,
and behind one whose text ends with a blank the next word may be an alias, too.
-/

namespace SyscallPolicy.Host.Shell

/-- The greatest number of characters, lines, rounds or words that are gone through. -/
def greatestLength : Nat := 100000000

/-- Aliases with their texts. -/
abbrev Aliases := List (Octets × Octets)

/-- An alias whose text is being read. -/
structure Layer where
  name : Octets
  /-- How much text is left behind its own. -/
  behind : Nat
  /-- Whether its text ends with a blank. -/
  endsBlank : Bool

/-- What is left to read of a script. -/
structure Source where
  rest : Octets
  /-- The length of the rest. -/
  size : Nat
  layers : List Layer := []
  /-- The number of the line. -/
  line : Nat := 1

/-- Whether a character separates words. -/
def isBlank (c : Char) : Bool :=
  c == ' ' || c == '\t'

/-- How many escaped line ends there are at the front of a text. -/
def jointsAtFront : Octets → Nat
  | '\\' :: '\n' :: rest => jointsAtFront rest + 1
  | _ => 0

namespace Source

/-- All of a text is left to read. -/
def ofText (text : Octets) : Source :=
  { rest := text, size := text.length }

/-- Leaves out so many characters. -/
def drop (s : Source) (count : Nat) : Source :=
  { s with
    rest := s.rest.drop count, size := s.size - count
    line := s.line + ((s.rest.take count).filter (· == '\n')).length }

/-- Leaves out the escaped line ends at the front. -/
def joined (s : Source) : Source :=
  s.drop (2 * jointsAtFront s.rest)

/-- Whether the text of an alias is being read. -/
def isInUse (s : Source) (name : Octets) : Bool :=
  s.layers.any fun layer => layer.name == name && layer.behind ≤ s.size

/-- Whether an alias ends here whose text ends with a blank. -/
def isBehindBlank (s : Source) : Bool :=
  s.layers.any fun layer => layer.behind == s.size && layer.endsBlank

/-- Puts the text of an alias in front. -/
def replace (s : Source) (name text : Octets) : Source :=
  let layer : Layer := { name, behind := s.size, endsBlank := text.getLast?.any isBlank }
  { s with
    rest := text ++ s.rest, size := text.length + s.size
    layers := layer :: s.layers.filter fun layer => layer.behind ≤ s.size }

/-- Another text to be read meanwhile.  An alias whose text is being read stays in use. -/
def inside (s : Source) (text : Octets) : Source :=
  { ofText text with
    layers := (s.layers.filter fun layer => layer.behind ≤ s.size).map fun layer =>
      { layer with behind := 0, endsBlank := false } }

end Source

end SyscallPolicy.Host.Shell
