import SyscallPolicy.Host.Octets

/-!
# Regular expressions

An expression sends places of a line to the places that a match from there may lead to.
It is run on many places at once, and no place is looked at twice in a repetition, so the
work grows with the line and not with the number of ways to match it.  What groups matched
is remembered, since an expression may ask for the same text again.
-/

namespace SyscallPolicy.Host

/-- A set of characters. -/
structure CharSet where
  ranges : List (Char × Char)
  isNegated : Bool := false
  deriving DecidableEq, Repr

/-- Whether a character is in a set. -/
def CharSet.has (set : CharSet) (c : Char) : Bool :=
  (set.ranges.any fun (low, high) => low ≤ c && c ≤ high) != set.isNegated

/-- An expression. -/
inductive Regex where
  /-- Nothing at all. -/
  | empty
  | one (set : CharSet)
  /-- The beginning of the line. -/
  | first
  /-- The end of the line. -/
  | last
  /-- A place with a word character on one side only, or not so. -/
  | edge (isNegated : Bool)
  /-- A place where a word begins. -/
  | opening
  /-- A place where a word ends. -/
  | closing
  | seq (left right : Regex)
  | either (left right : Regex)
  | many (body : Regex) (least : Nat) (most : Option Nat)
  | group (number : Nat) (body : Regex)
  /-- The text of a group once more. -/
  | again (number : Nat)
  deriving Repr

namespace Regex

/-- A line to search in. -/
structure Subject where
  chars : Array Char
  ignoresCase : Bool := false

/-- Whether a character can be in a word. -/
def isWordChar (c : Char) : Bool :=
  c.isAlphanum || c == '_'

/-- Whether there is a word character at an index. -/
def Subject.hasWordAt (s : Subject) (i : Nat) : Bool :=
  (s.chars[i]?.map isWordChar).getD false

/-- Whether there is a word character before an index. -/
def Subject.hasWordBefore (s : Subject) (i : Nat) : Bool :=
  i != 0 && s.hasWordAt (i - 1)

/-- Whether the character at an index is in a set. -/
def Subject.fits (s : Subject) (set : CharSet) (i : Nat) : Bool :=
  match s.chars[i]? with
  | none => false
  | some c => set.has c || (s.ignoresCase && (set.has c.toLower || set.has c.toUpper))

/-- What groups matched: number, beginning and end. -/
abbrev Groups := List (Nat × Nat × Nat)

/-- A place that was reached. -/
structure Spot where
  index : Nat
  groups : Groups := []
  deriving DecidableEq, Repr

/-- The groups with which each index was reached. -/
abbrev Seen := Array (List Groups)

/-- The spots that were not seen before, and what was seen then. -/
def visit (spots : List Spot) (seen : Seen) : List Spot × Seen :=
  let (fresh, seen) := spots.foldl (fun (fresh, seen) spot =>
    let known := seen[spot.index]?.getD []
    if known.contains spot.groups then (fresh, seen)
    else (spot :: fresh, seen.setIfInBounds spot.index (spot.groups :: known))) ([], seen)
  (fresh.reverse, seen)

/-- The spots that further and further steps lead to. -/
def closure (step : List Spot → List Spot) : Nat → List Spot → Seen → List Spot
  | 0, _, _ => []
  | bound + 1, spots, seen =>
    let (fresh, seen) := visit (step spots) seen
    if fresh.isEmpty then [] else fresh ++ closure step bound fresh seen

/-- Whether the same text stands at two indices. -/
def Subject.repeats (s : Subject) (start next : Nat) : Nat → Bool
  | 0 => true
  | length + 1 =>
    match s.chars[start]?, s.chars[next]? with
    | some c, some d =>
      (c == d || (s.ignoresCase && c.toLower == d.toLower)) &&
        s.repeats (start + 1) (next + 1) length
    | _, _ => false

/-- Where an expression leads from these spots. -/
def run (s : Subject) : Regex → List Spot → List Spot
  | empty, spots => spots
  | one set, spots =>
    (spots.filter fun spot => s.fits set spot.index).map fun spot =>
      { spot with index := spot.index + 1 }
  | first, spots => spots.filter fun spot => spot.index == 0
  | last, spots => spots.filter fun spot => spot.index == s.chars.size
  | edge isNegated, spots =>
    spots.filter fun spot =>
      (s.hasWordBefore spot.index != s.hasWordAt spot.index) != isNegated
  | opening, spots =>
    spots.filter fun spot => !s.hasWordBefore spot.index && s.hasWordAt spot.index
  | closing, spots =>
    spots.filter fun spot => s.hasWordBefore spot.index && !s.hasWordAt spot.index
  | seq left right, spots => run s right (run s left spots)
  | either left right, spots =>
    (visit (run s left spots ++ run s right spots)
      (Array.replicate (s.chars.size + 1) [])).1
  | many body least most, spots =>
    let none := Array.replicate (s.chars.size + 1) []
    let spots := Nat.repeat (fun spots => (visit (run s body spots) none).1) least spots
    let (spots, seen) := visit spots none
    spots ++ closure (run s body) (most.elim (s.chars.size + 1) (· - least)) spots seen
  | group number body, spots =>
    spots.flatMap fun spot =>
      (run s body [spot]).map fun found =>
        { found with groups := (number, spot.index, found.index) ::
            found.groups.filter fun g => g.1 != number }
  | again number, spots =>
    spots.filterMap fun spot =>
      match spot.groups.lookup number with
      | some (start, stop) =>
        if s.repeats start spot.index (stop - start) then
          some { spot with index := spot.index + (stop - start) }
        else none
      | none => none

/-- Whether an expression asks for the text of a group again. -/
def looksBack : Regex → Bool
  | again _ => true
  | seq left right => left.looksBack || right.looksBack
  | either left right => left.looksBack || right.looksBack
  | many body _ _ => body.looksBack
  | group _ body => body.looksBack
  | _ => false

/-- The expression without groups that nothing asks for. -/
def withoutGroups : Regex → Regex
  | seq left right => seq left.withoutGroups right.withoutGroups
  | either left right => either left.withoutGroups right.withoutGroups
  | many body least most => many body.withoutGroups least most
  | group _ body => body.withoutGroups
  | r => r

/-- An expression as it is run. -/
def prepared (r : Regex) : Regex :=
  if r.looksBack then r else r.withoutGroups

/-- Whether there is a match anywhere in a line. -/
def isIn (r : Regex) (s : Subject) : Bool :=
  !(r.run s ((List.range (s.chars.size + 1)).map fun i => { index := i })).isEmpty

/-- Where matches end that begin at an index. -/
def ends (r : Regex) (s : Subject) (start : Nat) : List Nat :=
  (r.run s [{ index := start }]).map (·.index)

/-- The expression that fits one text. -/
def ofText (text : Octets) : Regex :=
  text.foldr (fun c r => seq (one ⟨[(c, c)], false⟩) r) empty

end Regex

end SyscallPolicy.Host
