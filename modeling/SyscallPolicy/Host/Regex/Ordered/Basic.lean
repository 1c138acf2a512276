import SyscallPolicy.Host.Regex.Basic

/-!
# Expressions that are tried in order

An expression of this kind does not stand for a set of texts only: it says in which order
its ways to match are tried, and the first one that lets all the rest match is taken.  So
it can also say that a way is final, look around without going on, call its own groups, and
cut off ways that were not tried yet.

A match is given what is to be done behind it.  Trying a way is a step, and a search that
takes more steps than it may is given up.
-/

namespace SyscallPolicy.Host.Regex

/-- What can be asked of a place. -/
inductive Place where
  | first
  /-- It is the first one of a line. -/
  | lineFirst
  | last
  /-- It is the last one of a line. -/
  | lineLast
  /-- It is the last one, or only a line feed follows. -/
  | lastLine
  /-- The search began here. -/
  | begun
  /-- There is a word character on one side only, or not so. -/
  | edge (isNegated : Bool)
  deriving DecidableEq, Repr

/-- In which order the numbers of repetitions are tried. -/
inductive Manner where
  /-- As many as possible first. -/
  | eager
  /-- As few as possible first. -/
  | sparing
  /-- As many as possible, and no other number. -/
  | final
  deriving DecidableEq, Repr

/-- How ways that were not tried yet are cut off when one is come back to. -/
inductive Cut where
  /-- There is no match at all. -/
  | everything
  /-- There is no match that begins where this one does. -/
  | beginning
  /-- A match begins here at the earliest. -/
  | before
  /-- A match begins at a mark at the earliest. -/
  | beforeMark (name : Octets)
  /-- The next one of the alternatives with a number is tried. -/
  | alternative (number : Nat)
  deriving DecidableEq, Repr

/-- An expression whose ways to match are tried in order. -/
inductive Ordered where
  | empty
  | one (set : CharSet)
  | place (place : Place)
  | seq (left right : Ordered)
  /-- Alternatives, which have a number. -/
  | either (number : Nat) (left right : Ordered)
  | many (manner : Manner) (least : Nat) (most : Option Nat) (body : Ordered)
  | group (number : Nat) (body : Ordered)
  /-- No other way of the body is tried. -/
  | whole (body : Ordered)
  /-- Whether the body matches from here, which takes nothing. -/
  | look (isNegated : Bool) (body : Ordered)
  /-- So many characters back. -/
  | back (count : Nat)
  /-- The text of the first of these groups that has one. -/
  | again (numbers : List Nat) (ignoresCase : Bool)
  /-- The match counts from here on. -/
  | keep
  /-- The expression of a group, or the whole one. -/
  | call (number : Nat)
  /-- A choice by whether one of these groups has a text. -/
  | ifMatched (numbers : List Nat) (yes no : Ordered)
  /-- A choice by whether a call is under way, of a certain group if one is named. -/
  | ifCalled (number? : Option Nat) (yes no : Ordered)
  /-- A choice by what comes next. -/
  | ifLook (isNegated : Bool) (look yes no : Ordered)
  /-- The match ends well at once. -/
  | accept
  | cut (cut : Cut)
  | mark (name : Octets)
  deriving Repr

namespace Ordered

/-- The expression that never matches. -/
def never : Ordered := look true empty

/-- The body of a group. -/
def body? (number : Nat) : Ordered → Option Ordered
  | seq left right => (left.body? number).or (right.body? number)
  | either _ left right => (left.body? number).or (right.body? number)
  | many _ _ _ body => body.body? number
  | group n body => if n = number then some (group n body) else body.body? number
  | whole body => body.body? number
  | look _ body => body.body? number
  | ifMatched _ yes no => (yes.body? number).or (no.body? number)
  | ifCalled _ yes no => (yes.body? number).or (no.body? number)
  | ifLook _ seen yes no => ((seen.body? number).or (yes.body? number)).or (no.body? number)
  | _ => none

/-- The number of characters that an expression takes in any of its matches, if it is the same
for all.  Groups are looked up in the whole expression. -/
def width? (root : Ordered) : Nat → Ordered → Option Nat
  | 0, _ => none
  | fuel + 1, r =>
    match r with
    | one _ => some 1
    | seq accept _ => some 0
    | seq (look true empty) _ => some 0
    | seq left right => do return (← width? root fuel left) + (← width? root fuel right)
    | either _ left right => do
      let width ← width? root fuel left
      if width = (← width? root fuel right) then some width else none
    | many _ least most body => do
      if most = some least then return least * (← width? root fuel body) else none
    | group _ body => width? root fuel body
    | whole body => width? root fuel body
    | back _ => none
    | again [number] _ => (root.body? number).bind (width? root fuel)
    | again _ _ => none
    | call number => (root.body? number).bind (width? root fuel)
    | ifMatched _ yes no => do
      let width ← width? root fuel yes
      if width = (← width? root fuel no) then some width else none
    | ifCalled _ yes no => do
      let width ← width? root fuel yes
      if width = (← width? root fuel no) then some width else none
    | ifLook _ _ yes no => do
      let width ← width? root fuel yes
      if width = (← width? root fuel no) then some width else none
    | _ => some 0

/-- The expression with its alternatives looking back: each of them begins as many characters
before as it takes. -/
def behind? (root : Ordered) : Ordered → Option Ordered
  | either number left right => do
    return either number (← behind? root left) (← behind? root right)
  | body => (width? root 1000 body).map fun width => seq (back width) body

/-! ### Matching -/

/-- What a match goes on with. -/
structure Trail where
  index : Nat
  groups : Groups := []
  /-- Where the groups that are open began. -/
  opened : List (Nat × Nat) := []
  /-- Where the match counts from. -/
  start : Nat
  /-- The groups that are called, the innermost one first. -/
  called : List Nat := []
  /-- The marks that were passed. -/
  marks : List (Octets × Nat) := []
  /-- Whether the match was asked to end. -/
  hasEnded : Bool := false

/-- What became of a way. -/
inductive Tried where
  | found (trail : Trail)
  | failed
  /-- Ways are cut off; where the place of a mark is asked for, it is given. -/
  | cut (cut : Cut) (index : Nat)
  /-- There were too many steps. -/
  | exceeded

/-- A text in which an expression is tried, and where the search began. -/
structure Field where
  root : Ordered
  subject : Subject
  begun : Nat
  /-- Whether the text does not count as the beginning of a line. -/
  isInside : Bool := false

/-- What is done behind a match, given the steps that are left; and the steps left then. -/
abbrev Onward := Trail → Nat → Tried × Nat

/-- Whether a place is as asked. -/
def Field.holds (f : Field) (index : Nat) : Place → Bool
  | .first => index == 0 && !f.isInside
  | .lineFirst =>
    if index = 0 then !f.isInside
    else index < f.subject.chars.size && f.subject.chars[index - 1]? == some '\n'
  | .last => index == f.subject.chars.size
  | .lineLast => index == f.subject.chars.size || f.subject.chars[index]? == some '\n'
  | .lastLine =>
    index == f.subject.chars.size ||
      (index + 1 == f.subject.chars.size && f.subject.chars[index]? == some '\n')
  | .begun => index == f.begun
  | .edge isNegated =>
    (f.subject.hasWordBefore index != f.subject.hasWordAt index) != isNegated

/-- How many characters from an index on are in a set, up to a number. -/
def Field.run (f : Field) (set : CharSet) : Nat → Nat → Nat
  | 0, _ => 0
  | most + 1, index =>
    if f.subject.fits set index then f.run set most (index + 1) + 1 else 0

/-- Tries numbers of steps, from the first one to the last one. -/
def attempts (next : Nat → Nat → Tried × Nat) : List Nat → Nat → Tried × Nat
  | [], steps => (.failed, steps)
  | count :: rest, steps =>
    match next count steps with
    | (.failed, steps) => attempts next rest steps
    | tried => tried

/-- The text of the first of some groups that has one: where it begins and ends. -/
def Trail.text? (trail : Trail) (numbers : List Nat) : Option (Nat × Nat) :=
  numbers.findSome? fun number => trail.groups.lookup number

/-- A trail on which a group ends. -/
def Trail.close (trail : Trail) (number start : Nat) : Trail :=
  { trail with groups := (number, start, trail.index) ::
      trail.groups.filter fun g => g.1 != number }

/-- Tries an expression from where a trail has come, with what is done behind it and what is
done where the match ends at once.  Ways are tried up to a depth. -/
def go (f : Field) : Nat → Ordered → Onward → Onward → Onward
  | 0, _, _, _ => fun _ _ => (.exceeded, 0)
  | fuel + 1, r, ends, next => fun trail steps =>
    if steps = 0 then (.exceeded, 0)
    else
      let steps := steps - 1
      let found (trail : Trail) (steps : Nat) : Tried × Nat := (.found trail, steps)
      match r with
      | empty => next trail steps
      | one set =>
        if f.subject.fits set trail.index then
          next { trail with index := trail.index + 1 } steps
        else (.failed, steps)
      | place asked => if f.holds trail.index asked then next trail steps else (.failed, steps)
      | seq left right => go f fuel left ends (go f fuel right ends next) trail steps
      | either number left right =>
        match go f fuel left ends next trail steps with
        | (.failed, steps) => go f fuel right ends next trail steps
        | (.cut (.alternative n) index, steps) =>
          if n = number then
            match go f fuel right ends next trail steps with
            | (.cut (.alternative n) index, steps) =>
              (if n = number then .failed else .cut (.alternative n) index, steps)
            | tried => tried
          else (.cut (.alternative n) index, steps)
        | tried => tried
      | many manner least most (.one set) =>
        let room := f.subject.chars.size - trail.index
        let count := f.run set (most.elim room (min room)) trail.index
        let behind (count steps : Nat) : Tried × Nat :=
          next { trail with index := trail.index + count } steps
        if count < least then (.failed, steps)
        else
          let counts := (List.range (count + 1 - least)).map (· + least)
          let counts := match manner with
            | .eager => counts.reverse
            | .sparing => counts
            | .final => [count]
          attempts behind counts (steps - count)
      | many .final least most body =>
        go f fuel (whole (many .eager least most body)) ends next trail steps
      | many manner (least + 1) most body =>
        go f fuel body ends (go f fuel (many manner least (most.map (· - 1)) body) ends next)
          trail steps
      | many manner 0 most body =>
        let more (steps : Nat) : Tried × Nat :=
          if most = some 0 then (.failed, steps)
          else
            go f fuel body ends (fun after steps =>
              if after.index = trail.index then next after steps
              else go f fuel (many manner 0 (most.map (· - 1)) body) ends next after steps)
              trail steps
        if manner = .sparing then
          match next trail steps with
          | (.failed, steps) => more steps
          | tried => tried
        else
          match more steps with
          | (.failed, steps) => next trail steps
          | tried => tried
      | group number body =>
        let start := trail.index
        go f fuel body ends
          (fun after steps =>
            next { after.close number start with opened := trail.opened } steps)
          { trail with opened := (number, start) :: trail.opened } steps
      | whole body =>
        let atOnce (trail : Trail) (steps : Nat) : Tried × Nat :=
          (.found { trail with hasEnded := true }, steps)
        match go f fuel body atOnce found trail steps with
        | (.found after, steps) =>
          if after.hasEnded then ends { after with hasEnded := false } steps else next after steps
        | tried => tried
      | look isNegated body =>
        match go f fuel body found found trail steps with
        | (.found after, steps) =>
          if isNegated then (.failed, steps)
          else next { trail with groups := after.groups, marks := after.marks } steps
        | (.exceeded, steps) => (.exceeded, steps)
        | (_, steps) => if isNegated then next trail steps else (.failed, steps)
      | back count =>
        if count ≤ trail.index then next { trail with index := trail.index - count } steps
        else (.failed, steps)
      | again numbers ignoresCase =>
        match trail.text? numbers with
        | some (start, stop) =>
          let subject := { f.subject with ignoresCase }
          if subject.repeats start trail.index (stop - start) then
            next { trail with index := trail.index + (stop - start) } steps
          else (.failed, steps)
        | none => (.failed, steps)
      | keep => next { trail with start := trail.index } steps
      | call number =>
        let body := if number = 0 then f.root else (f.root.body? number).getD never
        let goOn (after : Trail) (steps : Nat) : Tried × Nat :=
          next { after with groups := trail.groups, opened := trail.opened, called := trail.called }
            steps
        match go f fuel body goOn goOn
            { trail with opened := [], called := number :: trail.called } steps with
        | (.cut _ _, steps) => (.failed, steps)
        | tried => tried
      | ifMatched numbers yes no =>
        go f fuel (if (trail.text? numbers).isSome then yes else no) ends next trail steps
      | ifCalled number? yes no =>
        let isSo : Bool := match trail.called, number? with
          | [], _ => false
          | _, none => true
          | number :: _, some asked => number == asked
        go f fuel (if isSo then yes else no) ends next trail steps
      | ifLook isNegated seen yes no =>
        match go f fuel seen found found trail steps with
        | (.exceeded, steps) => (.exceeded, steps)
        | (.found after, steps) =>
          if isNegated then go f fuel no ends next trail steps
          else go f fuel yes ends next { trail with groups := after.groups } steps
        | (_, steps) => go f fuel (if isNegated then yes else no) ends next trail steps
      | accept =>
        let close (trail : Trail) (group : Nat × Nat) : Trail := trail.close group.1 group.2
        let trail := trail.opened.foldl close trail
        ends { trail with opened := [] } steps
      | cut kind =>
        match next trail steps with
        | (.failed, steps) =>
          let index? := match kind with
            | .beforeMark name => trail.marks.lookup name
            | _ => some trail.index
          (index?.elim .failed (.cut kind), steps)
        | tried => tried
      | mark name => next { trail with marks := (name, trail.index) :: trail.marks } steps

/-! ### Searching -/

/-- Whether a set has a single character, but for its case. -/
def isSingle (set : CharSet) : Bool :=
  !set.isNegated &&
    match set.ranges with
    | [] => false
    | (c, _) :: rest => ((c, c) :: rest).all fun (low, high) =>
        low == high && low.toLower == c.toLower

/-- The characters with which a match can begin, if it cannot be empty. -/
def beginnings? : Ordered → Option (List CharSet)
  | one set => some [set]
  | seq left right =>
    match left with
    | place _ => right.beginnings?
    | look _ _ => right.beginnings?
    | keep => right.beginnings?
    | cut _ => right.beginnings?.filter fun sets => sets.all isSingle
    | mark _ => right.beginnings?.filter fun sets => sets.all isSingle
    | empty => right.beginnings?
    | left => left.beginnings?
  | either _ left right => do return (← left.beginnings?) ++ (← right.beginnings?)
  | many _ (_ + 1) _ body => body.beginnings?
  | group _ body => body.beginnings?
  | whole body => body.beginnings?
  | _ => none

/-- Single characters that every match has, as sets. -/
def needs : Ordered → List CharSet
  | one set => if isSingle set then [set] else []
  | seq accept _ => []
  | seq left right => left.needs ++ right.needs
  | many _ (_ + 1) _ body => body.needs
  | group _ body => body.needs
  | whole body => body.needs
  | _ => []

/-- Whether a match can be asked to end early. -/
def endsEarly : Ordered → Bool
  | accept => true
  | seq left right => left.endsEarly || right.endsEarly
  | either _ left right => left.endsEarly || right.endsEarly
  | many _ _ _ body => body.endsEarly
  | group _ body => body.endsEarly
  | whole body => body.endsEarly
  | ifMatched _ yes no => yes.endsEarly || no.endsEarly
  | ifCalled _ yes no => yes.endsEarly || no.endsEarly
  | ifLook _ _ yes no => yes.endsEarly || no.endsEarly
  | _ => false

/-- Whether a text has what a match needs, from an index on. -/
def canMatch (root : Ordered) (subject : Subject) (index : Nat) : Bool :=
  root.endsEarly ||
    let rest := subject.chars.toList.drop index
    root.needs.all fun set => rest.any fun c =>
      set.has c || (subject.ignoresCase && (set.has c.toLower || set.has c.toUpper))

/-- What a search finds. -/
inductive Hit where
  /-- A match, from an index to another one. -/
  | at (start stop : Nat)
  | nothing
  /-- The search was given up. -/
  | tooMuch
  deriving DecidableEq

/-- The greatest number of steps of a search. -/
def greatestSteps : Nat := 10000000

/-- The greatest depth of a search. -/
def greatestDepth : Nat := 20000

/-- Looks for a match that begins at an index or behind it. -/
def searchFrom (f : Field) : Nat → Nat → Nat → Hit
  | 0, _, _ => .nothing
  | fuel + 1, index, steps =>
    if f.subject.chars.size < index then .nothing
    else
      let canBegin := f.root.beginnings?.all fun sets =>
        sets.any fun set => f.subject.fits set index
      if !canBegin then searchFrom f fuel (index + 1) steps
      else
        let found (trail : Trail) (steps : Nat) : Tried × Nat := (.found trail, steps)
        match go f greatestDepth f.root found found { index, start := index } steps with
        | (.found trail, _) => .at (min trail.start trail.index) trail.index
        | (.failed, steps) => searchFrom f fuel (index + 1) steps
        | (.exceeded, _) => .tooMuch
        | (.cut .everything _, _) => .nothing
        | (.cut .beginning _, steps) => searchFrom f fuel (index + 1) steps
        | (.cut (.alternative _) _, steps) => searchFrom f fuel (index + 1) steps
        | (.cut _ behind, steps) => searchFrom f fuel (max (index + 1) behind) steps

/-- Looks for the first match in a text that begins at an index or behind it. -/
def search (root : Ordered) (subject : Subject) (index : Nat) : Hit :=
  if root.canMatch subject index then
    searchFrom { root, subject, begun := index, isInside := index != 0 }
      (subject.chars.size + 2) index greatestSteps
  else .nothing

end Ordered

end SyscallPolicy.Host.Regex
