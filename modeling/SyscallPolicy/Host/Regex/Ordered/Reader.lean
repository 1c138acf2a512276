import SyscallPolicy.Host.Regex.Ordered.Basic
import SyscallPolicy.Host.Regex.Classes

/-!
# Reading expressions that are tried in order

An expression is read from left to right.  What options are set changes how the rest of a
group is read.  A group can be asked for in front of where it stands, by number or by name,
so an expression is read twice: once to find its groups, and once with them at hand.
-/

namespace SyscallPolicy.Host.Regex.Ordered

/-- The options that are set. -/
structure Flags where
  ignoresCase : Bool := false
  /-- Whether lines count, and not only the whole text. -/
  hasLines : Bool := false
  /-- Whether a point stands for a line feed, too. -/
  crossesLines : Bool := false
  /-- Whether blanks and comments are passed over. -/
  isLoose : Bool := false
  /-- Whether blanks in sets are passed over, too. -/
  isLooseInSets : Bool := false
  /-- Whether groups without names have no numbers. -/
  isPlain : Bool := false
  /-- Whether repetitions are sparing unless they are said to be eager. -/
  isSparing : Bool := false
  /-- Whether names can stand for several groups. -/
  sharesNames : Bool := false
  deriving DecidableEq

/-- The groups of an expression. -/
structure GroupIndex where
  count : Nat := 0
  /-- The names of groups, with their numbers. -/
  names : List (Octets × Nat) := []

/-- How far reading has come. -/
structure Notes where
  rest : Octets
  /-- The groups that were opened. -/
  groups : GroupIndex := {}
  /-- All groups, if the expression was read before. -/
  all? : Option GroupIndex := none
  /-- The greatest number of a group that was asked for. -/
  asked : Nat := 0
  /-- How many sets of alternatives were read. -/
  choices : Nat := 0
  /-- The set of alternatives that is being read. -/
  choice : Nat := 0

/-- Reads something, or finds a fault. -/
abbrev Reading := StateT Notes (Except String)

/-- What is left to read. -/
def remaining : Reading Octets := do return (← get).rest

/-- Goes on with another text. -/
def goTo (rest : Octets) : Reading Unit := modify fun notes => { notes with rest }

/-- Takes a text that must be there. -/
def take (text : Octets) (fault : String) : Reading Unit := do
  let s ← remaining
  if text.isPrefixOf s then goTo (s.drop text.length) else throw fault

/-- The fault of a group that is not closed. -/
def unclosed : String := "missing closing parenthesis"

/-- The fault of a reference that is neither a number nor in signs that close it. -/
def badReference : String :=
  "\\g is not followed by a braced, angle-bracketed, or quoted name/number " ++
    "or by a plain number"

/-- The fault of asking for a group that is not there. -/
def noGroup : String := "reference to non-existent subpattern"

/-! ### Characters -/

/-- All characters. -/
def allChars : List Char := (List.range 256).map Char.ofNat

/-- The set of the characters for which something holds. -/
def setOf (holds : Char → Bool) : CharSet :=
  ⟨(allChars.filter holds).map fun c => (c, c), false⟩

/-- Whether a set has a character, or the other case of it. -/
def hasEither (set : CharSet) (c : Char) : Bool :=
  set.has c || set.has c.toLower || set.has c.toUpper

/-- A set as it is under options. -/
def Flags.set (flags : Flags) (set : CharSet) : CharSet :=
  if flags.ignoresCase then setOf (hasEither set) else set

/-- The expression for a character under options. -/
def Flags.char (flags : Flags) (c : Char) : Ordered :=
  .one (flags.set ⟨[(c, c)], false⟩)

/-- Whether a character counts as a blank across the line. -/
def isAcross (c : Char) : Bool := c == ' ' || c == '\t' || c == '\xa0'

/-- Whether a character ends a line. -/
def isDown (c : Char) : Bool := (10 ≤ c.toNat && c.toNat ≤ 13) || c.toNat = 0x85

/-- The set that a letter behind a backslash stands for; a capital one stands for the other
characters. -/
def letterSet? (c : Char) : Option (Char → Bool) :=
  match c with
  | 'd' => some Char.isDigit
  | 'w' => some isWordChar
  | 's' => some Octets.isSpace
  | 'h' => some isAcross
  | 'v' => some isDown
  | _ => none

/-- The set that an escaped letter stands for. -/
def escapedSet? (c : Char) : Option (Char → Bool) :=
  match letterSet? c with
  | some holds => some holds
  | none =>
    if c.isUpper then (letterSet? c.toLower).map fun holds c => !holds c else none

/-- The character that an escaped letter stands for. -/
def escapedChar? (c : Char) : Option Char :=
  match c with
  | 'a' => some '\x07'
  | 'e' => some '\x1b'
  | 'f' => some '\x0c'
  | 'n' => some '\n'
  | 'r' => some '\r'
  | 't' => some '\t'
  | _ => if c.isAlphanum then none else some c

/-- The character with a number, which must not be too large. -/
def charOf (number : Nat) (fault : String) : Reading Char :=
  if number < 256 then return Char.ofNat number else throw fault

/-- Reads digits in braces behind an opening one. -/
def bracedNumber (base : Nat) (what : String) : Reading Char := do
  let s ← remaining
  match Octets.readDigits base s with
  | none =>
    if s.isEmpty || s.head? = some '\x7d' then
      throw "digits missing in \\x\x7b\x7d or \\o\x7b\x7d or \\N\x7bU+\x7d"
    else throw what
  | some (number, rest) =>
    goTo rest
    if number > 255 then
      throw "character code point value in \\x\x7b\x7d or \\o\x7b\x7d is too large"
    take ['\x7d'] what
    charOf number what

/-- The value of up to so many digits of a base, and the number of digits. -/
def leading (base most : Nat) (s : Octets) : Nat × Nat :=
  let digits := (s.take most).takeWhile fun c => (Octets.digitIn? base c).isSome
  (digits.foldl (fun n c => n * base + (Octets.digitIn? base c).getD 0) 0, digits.length)

/-- Reads a character whose number is written in the base eight, with up to so many digits. -/
def octal (most : Nat) : Reading Char := do
  let s ← remaining
  let (number, length) := leading 8 most s
  goTo (s.drop length)
  charOf number "octal value is greater than \\377 in 8-bit non-UTF-8 mode"

/-- Reads a character behind a backslash and its letter, if it stands for one. -/
def escaped (c : Char) : Reading (Option Char) := do
  let s ← remaining
  match c, s with
  | 'x', '\x7b' :: rest =>
    goTo rest
    return some (← bracedNumber 16 "non-hex character in \\x\x7b\x7d (closing brace missing?)")
  | 'x', _ =>
    let (number, length) := leading 16 2 s
    goTo (s.drop length)
    return some (Char.ofNat number)
  | 'o', '\x7b' :: rest =>
    goTo rest
    return some (← bracedNumber 8 "non-octal character in \\o\x7b\x7d (closing brace missing?)")
  | 'o', _ => throw "missing opening brace after \\o"
  | '0', _ => return some (← octal 2)
  | 'c', [] => throw "\\c at end of pattern"
  | 'c', d :: rest =>
    if d < ' ' || '~' < d then throw "\\c must be followed by a printable ASCII character"
    goTo rest
    return some (Char.ofNat (d.toUpper.toNat ^^^ 64))
  | _, _ => return escapedChar? c

/-! ### Names -/

/-- Reads a name up to a sign that closes it. -/
def nameUpTo (closer : Char) : Reading Octets := do
  let s ← remaining
  let name := s.takeWhile isWordChar
  if name.isEmpty then throw "subpattern name expected"
  if name.head?.any Char.isDigit then throw "subpattern name must start with a non-digit"
  if 32 < name.length then throw "subpattern name is too long (maximum 32 code units)"
  goTo (s.drop name.length)
  take [closer] "syntax error in subpattern name (missing terminator?)"
  return name

/-- The groups with a name. -/
def numbersOf (name : Octets) : Reading (List Nat) := do
  match (← get).all? with
  | none => return []
  | some groups =>
    let found := (groups.names.filter fun entry => entry.1 == name).map (·.2)
    if found.isEmpty then throw noGroup else return found

/-- Asks for a group by its number. -/
def ask (number : Nat) : Reading Nat := do
  modify fun notes => { notes with asked := max notes.asked number }
  return number

/-- Reads a number, which counts from the groups that were opened if it has a sign. -/
def groupNumber : Reading (Option Nat) := do
  let s ← remaining
  let count := (← get).groups.count
  match s with
  | '+' :: rest =>
    match Octets.readDigits 10 rest with
    | some (0, _) => throw "a relative value of zero is not allowed"
    | some (n, rest) => goTo rest; return some (count + n)
    | none => return none
  | '-' :: rest =>
    match Octets.readDigits 10 rest with
    | some (0, _) => throw "a relative value of zero is not allowed"
    | some (n, rest) =>
      goTo rest
      if count < n then throw noGroup else return some (count + 1 - n)
    | none => return none
  | _ =>
    match Octets.readDigits 10 s with
    | some (n, rest) => goTo rest; return some n
    | none => return none

/-- The expression that asks for the text of groups. -/
def Flags.again (flags : Flags) (numbers : List Nat) : Ordered :=
  .again numbers flags.ignoresCase

/-- Reads a name or a number in front of a sign that closes it: the groups it stands for. -/
def reference (closer : Char) : Reading (List Nat) := do
  match ← groupNumber with
  | some 0 => throw noGroup
  | some number =>
    take [closer] badReference
    return [← ask number]
  | none => numbersOf (← nameUpTo closer)

/-- The expression that calls the first of some groups. -/
def calling (numbers : List Nat) : Ordered :=
  .call (numbers.headD 0)

/-- Reads a call of a group in front of a sign that closes it. -/
def called (closer : Char) : Reading Ordered := do
  match ← groupNumber with
  | some number =>
    take [closer] badReference
    return .call (← ask number)
  | none => return calling (← numbersOf (← nameUpTo closer))

/-! ### Sets -/

/-- Whether a class in brackets begins behind an opening bracket, and where it ends. -/
def classEnd? (sign : Char) : Octets → Nat → Option Nat
  | '\\' :: c :: rest, n =>
    if c = ']' || c = '\\' then classEnd? sign rest (n + 2) else classEnd? sign (c :: rest) (n + 1)
  | c :: d :: rest, n =>
    if (c = '[' && d = sign) || c = ']' then none
    else if c = sign && d = ']' then some n
    else classEnd? sign (d :: rest) (n + 1)
  | _, _ => none

/-- The place where a class in brackets ends. -/
def namedClass? (s : Octets) : Option (Char × Octets × Octets) :=
  match s with
  | '[' :: sign :: rest =>
    if sign == ':' || sign == '.' || sign == '=' then
      (classEnd? sign rest 0).map fun n => (sign, rest.take n, rest.drop (n + 2))
    else none
  | _ => none

/-- The characters of a class with a name, in front of which a sign can stand. -/
def namedSet (sign : Char) (name : Octets) : Reading (Char → Bool) := do
  if sign != ':' then throw "POSIX collating elements are not supported"
  let isNegated := name.head? == some '^'
  let name := if isNegated then name.drop 1 else name
  match if name = "word".toList then some wordChars else classRanges? name with
  | none => throw "unknown POSIX class name"
  | some ranges => return (CharSet.mk ranges isNegated).has

/-- What a member of a set is: a character, or all those for which something holds. -/
inductive Member where
  | char (c : Char)
  | those (holds : Char → Bool)

/-- Reads a member of a set behind a backslash. -/
def escapedMember : Reading Member := do
  match ← remaining with
  | [] => throw "\\ at end of pattern"
  | c :: rest =>
    goTo rest
    match escapedSet? c with
    | some holds => return .those holds
    | none =>
      if c = 'b' then return .char '\x08'
      else if c = 'N' then throw "\\N is not supported in a class"
      else if c = 'B' || c = 'R' || c = 'X' then
        throw "escape sequence is invalid in character class"
      else if '1' ≤ c && c ≤ '7' then
        goTo (c :: rest)
        return .char (← octal 3)
      else
        match ← escaped c with
        | some c => return .char c
        | none => throw "unrecognized character follows \\"

/-- What was read of a set: its members so far, and the character with which a range can
begin, or has begun. -/
structure SetRead where
  holds : Char → Bool := fun _ => false
  last? : Option Char := none
  isRange : Bool := false
  /-- Whether a class is in front, which cannot begin a range. -/
  isBehindClass : Bool := false
  /-- Whether all signs stand for themselves. -/
  isQuoted : Bool := false

/-- A set with one more member. -/
def SetRead.add (found : SetRead) (holds : Char → Bool) : SetRead :=
  { found with holds := fun c => found.holds c || holds c, isRange := false }

/-- Adds a character, which can end a range. -/
def SetRead.char (found : SetRead) (c : Char) : Reading SetRead :=
  match found.isRange, found.last? with
  | true, some low =>
    if c < low then throw "range out of order in character class"
    else
      return { found.add fun d => low ≤ d && d ≤ c with last? := none, isBehindClass := false }
  | _, _ => return { found.add (· == c) with last? := some c, isBehindClass := false }

/-- Adds all the characters for which something holds. -/
def SetRead.those (found : SetRead) (holds : Char → Bool) : Reading SetRead :=
  if found.isRange then throw "invalid range in character class"
  else return { found.add holds with last? := none, isBehindClass := true }

/-- Reads the members of a set up to its end. -/
def setMembers (flags : Flags) : Nat → Bool → SetRead → Reading SetRead
  | 0, _, _ => throw "missing terminating ] for character class"
  | fuel + 1, isFirst, found => do
    let s ← remaining
    match s with
    | [] => throw "missing terminating ] for character class"
    | '\\' :: 'E' :: rest =>
      goTo rest
      setMembers flags fuel isFirst { found with isQuoted := false }
    | c :: rest =>
      if found.isQuoted then
        goTo rest
        setMembers flags fuel false (← found.char c)
      else if c = '\\' && rest.head? = some 'Q' then
        goTo (rest.drop 1)
        setMembers flags fuel isFirst { found with isQuoted := true }
      else if c = ']' && !isFirst then
        goTo rest
        return if found.isRange then { found.add (· == '-') with isRange := false } else found
      else if flags.isLooseInSets && (c == ' ' || c == '\t') then
        goTo rest
        setMembers flags fuel isFirst found
      else
        match namedClass? s with
        | some (sign, name, after) =>
          goTo after
          setMembers flags fuel false (← found.those (← namedSet sign name))
        | none =>
          goTo rest
          if c = '\\' then
            match ← escapedMember with
            | .char c => setMembers flags fuel false (← found.char c)
            | .those holds => setMembers flags fuel false (← found.those holds)
          else if c = '-' && found.last?.isSome && !found.isRange then
            setMembers flags fuel false { found with isRange := true }
          else if c = '-' && found.isBehindClass && rest.head? != some ']' then
            throw "invalid range in character class"
          else setMembers flags fuel false (← found.char c)

/-- Reads a set behind its opening bracket. -/
def readSet (flags : Flags) : Reading Ordered := do
  let s ← remaining
  if "[:<:]]".toList.isPrefixOf s then
    goTo (s.drop 6)
    return .seq (.place (.edge false)) (.look false (.one (setOf isWordChar)))
  else if "[:>:]]".toList.isPrefixOf s then
    goTo (s.drop 6)
    return .seq (.place (.edge false))
      (.look false (.seq (.back 1) (.one (setOf isWordChar))))
  else
    match namedClass? ('[' :: s) with
    | some (':', _, _) => throw "POSIX named classes are supported only within a class"
    | some _ => throw "POSIX collating elements are not supported"
    | none =>
      let isNegated := s.head? == some '^'
      if isNegated then goTo (s.drop 1)
      let found ← setMembers flags (s.length + 2) true {}
      let set := flags.set (setOf found.holds)
      return .one { set with isNegated }

/-! ### Repetitions -/

/-- The bounds of a repetition at the front of a text, and what follows. -/
def bounds? (s : Octets) : Option (Nat × Option Nat × Octets) :=
  match Octets.readDigits 10 s with
  | some (least, '\x7d' :: rest) => some (least, some least, rest)
  | some (least, ',' :: '\x7d' :: rest) => some (least, none, rest)
  | some (least, ',' :: rest) =>
    match Octets.readDigits 10 rest with
    | some (most, '\x7d' :: rest) => some (least, some most, rest)
    | _ => none
  | _ => none

/-- The repetition at the front of a text, and what follows. -/
def repetition? (s : Octets) : Option (Nat × Option Nat × Octets) :=
  match s with
  | '*' :: rest => some (0, none, rest)
  | '+' :: rest => some (1, none, rest)
  | '?' :: rest => some (0, some 1, rest)
  | '\x7b' :: rest => bounds? rest
  | _ => none

/-- The manner that a sign behind a repetition asks for, and what follows. -/
def mannerAt (flags : Flags) (s : Octets) : Manner × Octets :=
  match s with
  | '?' :: rest => (if flags.isSparing then .eager else .sparing, rest)
  | '+' :: rest => (.final, rest)
  | _ => (if flags.isSparing then .sparing else .eager, s)

/-! ### Options -/

/-- Sets the options that letters ask for, up to a sign that ends them. -/
def readFlags : Nat → Bool → Flags → Reading (Flags × Bool)
  | 0, _, _ => throw unclosed
  | fuel + 1, isOn, flags => do
    let s ← remaining
    let next (rest : Octets) (flags : Flags) : Reading (Flags × Bool) := do
      goTo rest
      readFlags fuel isOn flags
    match s with
    | [] => throw unclosed
    | ')' :: rest => goTo rest; return (flags, true)
    | ':' :: rest => goTo rest; return (flags, false)
    | '-' :: rest =>
      if !isOn then throw "invalid hyphen in option setting"
      goTo rest
      readFlags fuel false flags
    | 'i' :: rest => next rest { flags with ignoresCase := isOn }
    | 'm' :: rest => next rest { flags with hasLines := isOn }
    | 's' :: rest => next rest { flags with crossesLines := isOn }
    | 'n' :: rest => next rest { flags with isPlain := isOn }
    | 'U' :: rest => next rest { flags with isSparing := isOn }
    | 'J' :: rest => next rest { flags with sharesNames := isOn }
    | 'x' :: 'x' :: rest => next rest { flags with isLoose := isOn, isLooseInSets := isOn }
    | 'x' :: rest => next rest { flags with isLoose := isOn, isLooseInSets := false }
    | _ => throw "unrecognized character after (? or (?-"

/-- Sets options behind a caret, which takes most of them back first. -/
def readFlagsAfresh (flags : Flags) : Reading (Flags × Bool) := do
  let s ← remaining
  if (s.takeWhile fun c => c != ')' && c != ':').contains '-' then
    throw "invalid hyphen in option setting"
  readFlags (s.length + 1) true
    { flags with
      ignoresCase := false, hasLines := false, crossesLines := false, isPlain := false
      isLoose := false, isLooseInSets := false }

/-! ### Groups -/

/-- Opens a group: its number. -/
def openGroup (flags : Flags) (name? : Option Octets) : Reading Nat := do
  let notes ← get
  let number := notes.groups.count + 1
  let names ← match name? with
    | none => pure notes.groups.names
    | some name =>
      let isTaken := notes.groups.names.any fun entry => entry.1 == name && entry.2 != number
      if isTaken && !flags.sharesNames then
        throw "two named subpatterns have the same name (PCRE2_DUPNAMES not set)"
      pure (notes.groups.names ++ [(name, number)])
  set { notes with groups := ⟨number, names⟩ }
  return number

/-- The kinds of groups that look around. -/
inductive Looking where
  | ahead
  | behind
  deriving DecidableEq

/-- The alternatives as one expression. -/
def joined (number : Nat) : List Ordered → Ordered
  | [] => .empty
  | [r] => r
  | r :: rest => .either number r (joined number rest)

/-- Where an expression stands: the options, what was read in front, and whether the last
part can be repeated. -/
structure Row where
  flags : Flags
  parts : List Ordered := []
  canRepeat : Bool := false

/-- A row with one more part. -/
def Row.push (row : Row) (part : Ordered) (canRepeat : Bool) : Row :=
  { row with parts := part :: row.parts, canRepeat }

/-- The parts one after the other. -/
def Row.expression (row : Row) : Ordered :=
  row.parts.foldl (fun after part => .seq part after) .empty

/-- The words that begin a group behind an opening parenthesis and a star. -/
def looks : List (String × Looking × Bool) :=
  [("pla", .ahead, false), ("positive_lookahead", .ahead, false), ("nla", .ahead, true),
   ("negative_lookahead", .ahead, true), ("plb", .behind, false),
   ("positive_lookbehind", .behind, false), ("nlb", .behind, true),
   ("negative_lookbehind", .behind, true), ("napla", .ahead, false),
   ("non_atomic_positive_lookahead", .ahead, false), ("naplb", .behind, false),
   ("non_atomic_positive_lookbehind", .behind, false)]

/-- The expression of a word behind an opening parenthesis and a star, with a name. -/
def verb? (choice : Nat) (word : String) (name? : Option Octets) : Option (List Ordered) :=
  let marks := (name?.map Ordered.mark).toList
  match word with
  | "ACCEPT" => some (marks ++ [.accept])
  | "F" => some (marks ++ [never])
  | "FAIL" => some (marks ++ [never])
  | "COMMIT" => some (marks ++ [.cut .everything])
  | "PRUNE" => some (marks ++ [.cut .beginning])
  | "SKIP" => some [.cut (name?.elim .before .beforeMark)]
  | "THEN" => some (marks ++ [.cut (.alternative choice)])
  | "MARK" => some marks
  | "" => some marks
  | _ => none

/-- The expression for a line end, which can have two characters. -/
def lineEnd : Ordered :=
  .whole (.either 0 (.seq (.one ⟨[('\r', '\r')], false⟩) (.one ⟨[('\n', '\n')], false⟩))
    (.one (setOf isDown)))

/-- The text in front of the end of a quotation. -/
def quotedText : Octets → Octets
  | '\\' :: 'E' :: _ => []
  | c :: rest => c :: quotedText rest
  | [] => []

/-- Reads the name of a property of characters: the set that has it. -/
def property (isOther : Bool) : Reading CharSet := do
  let name ← match ← remaining with
    | [] => throw "malformed \\P or \\p sequence"
    | '\x7b' :: rest =>
      let name := rest.takeWhile (· != '\x7d')
      if name.length = rest.length then throw "malformed \\P or \\p sequence"
      goTo (rest.drop (name.length + 1))
      pure name
    | c :: rest => goTo rest; pure [c]
  let isNegated := name.head? == some '^'
  match property? (if isNegated then name.drop 1 else name) with
  | some holds => return setOf fun c => holds c != (isNegated != isOther)
  | none => throw "unknown property after \\P or \\p"

/-- Reads what a backslash makes of the text behind it, and whether it can be repeated. -/
def escape (flags : Flags) : Reading (Ordered × Bool) := do
  match ← remaining with
  | [] => throw "\\ at end of pattern"
  | c :: rest =>
    goTo rest
    let place (place : Place) : Reading (Ordered × Bool) := return (.place place, false)
    match c with
    | 'b' => place (.edge false)
    | 'B' => place (.edge true)
    | 'A' => place .first
    | 'Z' => place .lastLine
    | 'z' => place .last
    | 'G' => place .begun
    | 'K' => return (.keep, false)
    | 'R' => return (lineEnd, true)
    | 'X' => return (.either 0 (.seq (.one ⟨[('\r', '\r')], false⟩) (.one ⟨[('\n', '\n')], false⟩))
        (.one ⟨[], true⟩), true)
    | 'C' => return (.one ⟨[], true⟩, true)
    | 'N' =>
      match rest with
      | '\x7b' :: 'U' :: '+' :: _ =>
        throw "\\N\x7bU+dddd\x7d is supported only in Unicode (UTF) mode"
      | '\x7b' :: more =>
        if (bounds? more).isSome then return (.one ⟨[('\n', '\n')], true⟩, true)
        else
          throw "PCRE2 does not support \\F, \\L, \\l, \\N\x7bname\x7d, \\U, or \\u"
      | _ => return (.one ⟨[('\n', '\n')], true⟩, true)
    | 'p' => return (.one (← property false), true)
    | 'P' => return (.one (← property true), true)
    | 'k' =>
      match rest with
      | '\x7b' :: more =>
        goTo more
        return (flags.again (← numbersOf (← nameUpTo '\x7d')), true)
      | '<' :: more => goTo more; return (flags.again (← numbersOf (← nameUpTo '>')), true)
      | '\'' :: more => goTo more; return (flags.again (← numbersOf (← nameUpTo '\'')), true)
      | _ => throw "\\k is not followed by a braced, angle-bracketed, or quoted name"
    | 'g' =>
      match rest with
      | '<' :: more => goTo more; return (← called '>', true)
      | '\'' :: more => goTo more; return (← called '\'', true)
      | '\x7b' :: more => goTo more; return (flags.again (← reference '\x7d'), true)
      | _ =>
        match ← groupNumber with
        | some 0 => throw noGroup
        | some number => return (flags.again [← ask number], true)
        | none =>
          throw badReference
    | _ =>
      match escapedSet? c with
      | some holds => return (.one (setOf holds), true)
      | none =>
        if '1' ≤ c && c ≤ '9' then
          let (number, after) := (Octets.readDigits 10 (c :: rest)).getD (0, rest)
          if number < 10 || c ≥ '8' || number ≤ (← get).groups.count then
            goTo after
            return (flags.again [← ask number], true)
          else
            goTo (c :: rest)
            return (flags.char (← octal 3), true)
        else if ['F', 'L', 'l', 'U', 'u'].contains c then
          throw "PCRE2 does not support \\F, \\L, \\l, \\N\x7bname\x7d, \\U, or \\u"
        else
          match ← escaped c with
          | some c => return (flags.char c, true)
          | none => throw "unrecognized character follows \\"

/-- Passes over a callout, up to the parenthesis behind it. -/
def callout : Reading Unit := do
  let s ← remaining
  match s with
  | ')' :: rest => goTo rest
  | c :: rest =>
    if c.isDigit then
      let (number, rest) := (Octets.readDigits 10 s).getD (0, rest)
      if 255 < number then throw "number after (?C is greater than 255"
      goTo rest
      take [')'] "closing parenthesis for (?C expected"
    else
      let closer := if c = '\x7b' then '\x7d' else c
      match rest.dropWhile (· != closer) with
      | [] => throw "missing terminating delimiter for callout with string argument"
      | _ :: rest =>
        goTo rest
        take [')'] "closing parenthesis for (?C expected"
  | [] => throw unclosed

mutual

/-- Reads alternatives up to the end of a group or of the text.  Their groups can share their
numbers. -/
def alternatives : Nat → (shares : Bool) → Flags → Reading (List Ordered)
  | 0, _, _ => throw unclosed
  | fuel + 1, shares, flags => do
    let outer := (← get).choice
    let choice := (← get).choices + 1
    modify fun notes => { notes with choices := choice, choice }
    let opened := (← get).groups.count
    let found ← branches fuel shares flags opened opened
    modify fun notes => { notes with choice := outer }
    return found

/-- Reads alternatives, given the groups in front and the most groups so far. -/
def branches : Nat → Bool → Flags → Nat → Nat → Reading (List Ordered)
  | 0, _, _, _, _ => throw unclosed
  | fuel + 1, shares, flags, opened, most => do
    let row ← parts fuel { flags }
    let most := max most (← get).groups.count
    match ← remaining with
    | '|' :: rest =>
      goTo rest
      if shares then modify fun notes => { notes with groups.count := opened }
      return row.expression :: (← branches fuel shares row.flags opened most)
    | _ =>
      modify fun notes => { notes with groups.count := most }
      return [row.expression]

/-- Reads parts up to the end of an alternative. -/
def parts : Nat → Row → Reading Row
  | 0, _ => throw unclosed
  | fuel + 1, row => do
    let s ← remaining
    match s with
    | [] => return row
    | '|' :: _ => return row
    | ')' :: _ => return row
    | '(' :: '?' :: '#' :: rest =>
      match rest.dropWhile (· != ')') with
      | [] => throw "missing ) after (?# comment"
      | _ :: rest => goTo rest; parts fuel row
    | '\\' :: 'E' :: rest => goTo rest; parts fuel row
    | '\\' :: 'Q' :: rest =>
      let text := quotedText rest
      let behind := rest.drop text.length
      goTo (if ['\\', 'E'].isPrefixOf behind then behind.drop 2 else behind)
      parts fuel (text.foldl (fun row c => row.push (row.flags.char c) true) row)
    | c :: rest =>
      if row.flags.isLoose && (Octets.isSpace c || c == '#') then
        goTo (if c = '#' then (rest.dropWhile (· != '\n')).drop 1 else rest)
        parts fuel row
      else
        match repetition? s with
        | some (least, most, behind) =>
          if !row.canRepeat then throw "quantifier does not follow a repeatable item"
          if 65535 < least || most.any (65535 < ·) then
            throw "number too big in \x7b\x7d quantifier"
          if most.any (· < least) then throw "numbers out of order in \x7b\x7d quantifier"
          let (manner, behind) := mannerAt row.flags behind
          goTo behind
          match row.parts with
          | part :: others =>
            parts fuel
              { row with parts := .many manner least most part :: others, canRepeat := false }
          | [] => throw "quantifier does not follow a repeatable item"
        | none =>
          goTo rest
          match c with
          | '\\' =>
            let (part, canRepeat) ← escape row.flags
            parts fuel (row.push part canRepeat)
          | '[' => parts fuel (row.push (← readSet row.flags) true)
          | '(' => parts fuel (← readGroup fuel row)
          | '.' =>
            let left := if row.flags.crossesLines then [] else [('\n', '\n')]
            parts fuel (row.push (.one ⟨left, true⟩) true)
          | '^' =>
            parts fuel (row.push (.place (if row.flags.hasLines then .lineFirst else .first)) false)
          | '$' =>
            parts fuel (row.push (.place (if row.flags.hasLines then .lineLast else .last)) false)
          | c => parts fuel (row.push (row.flags.char c) true)
/-- Reads a group behind its parenthesis. -/
def readGroup : Nat → Row → Reading Row
  | 0, _ => throw unclosed
  | fuel + 1, row => do
    let flags := row.flags
    let s ← remaining
    let numbered (name? : Option Octets) : Reading Row := do
      let number ← openGroup flags name?
      let body ← readBody fuel false flags
      return row.push (.group number body) true
    let plain (rest : Octets) : Reading Row := do
      goTo rest
      return row.push (← readBody fuel false flags) true
    match s with
    | '?' :: rest =>
      match rest with
      | ':' :: rest => plain rest
      | '|' :: rest => goTo rest; return row.push (← readBody fuel true flags) true
      | '>' :: rest => goTo rest; return row.push (.whole (← readBody fuel false flags)) true
      | '=' :: rest => goTo rest; return row.push (← readLook fuel .ahead false flags) true
      | '!' :: rest => goTo rest; return row.push (← readLook fuel .ahead true flags) true
      | '*' :: rest => goTo rest; return row.push (← readLook fuel .ahead false flags) true
      | '<' :: '=' :: rest => goTo rest; return row.push (← readLook fuel .behind false flags) true
      | '<' :: '!' :: rest => goTo rest; return row.push (← readLook fuel .behind true flags) true
      | '<' :: '*' :: rest => goTo rest; return row.push (← readLook fuel .behind false flags) true
      | '<' :: rest => goTo rest; numbered (some (← nameUpTo '>'))
      | '\'' :: rest => goTo rest; numbered (some (← nameUpTo '\''))
      | 'P' :: '<' :: rest => goTo rest; numbered (some (← nameUpTo '>'))
      | 'P' :: '>' :: rest =>
        goTo rest
        return row.push (calling (← numbersOf (← nameUpTo ')'))) true
      | 'P' :: '=' :: rest =>
        goTo rest
        return row.push (flags.again (← numbersOf (← nameUpTo ')'))) true
      | 'P' :: _ => throw "unrecognized character after (?P"
      | '&' :: rest =>
        goTo rest
        return row.push (calling (← numbersOf (← nameUpTo ')'))) true
      | 'R' :: rest =>
        goTo rest
        take [')'] "(?R (recursive pattern call) must be followed by a closing parenthesis"
        return row.push (.call 0) true
      | 'C' :: rest => goTo rest; callout; return { row with canRepeat := false }
      | '(' :: rest => goTo rest; return row.push (← condition fuel flags) true
      | '^' :: rest =>
        goTo rest
        let (flags, isOver) ← readFlagsAfresh flags
        if isOver then return { row with flags, canRepeat := false }
        else return row.push (← readBody fuel false flags) true
      | c :: d :: _ =>
        if c.isDigit || ((c == '+' || c == '-') && d.isDigit) then
          goTo rest
          match ← groupNumber with
          | some number =>
            take [')'] unclosed
            return row.push (.call (← ask number)) true
          | none => throw unclosed
        else if c = '+' then throw "digit expected after (?+ or (?-"
        else
          goTo rest
          options fuel row
      | _ => goTo rest; options fuel row
    | '*' :: rest => goTo rest; starred fuel row
    | _ =>
      if flags.isPlain then return row.push (← readBody fuel false flags) true
      else numbered none

/-- Reads options behind the sign that opens them. -/
def options : Nat → Row → Reading Row
  | 0, _ => throw unclosed
  | fuel + 1, row => do
    let (flags, isOver) ← readFlags ((← remaining).length + 1) true row.flags
    if isOver then return { row with flags, canRepeat := false }
    else return row.push (← readBody fuel false flags) true

/-- Reads the body of a group, and the parenthesis behind it. -/
def readBody : Nat → Bool → Flags → Reading Ordered
  | 0, _, _ => throw unclosed
  | fuel + 1, shares, flags => do
    let number := (← get).choices + 1
    let found ← alternatives fuel shares flags
    take [')'] unclosed
    return joined number found

/-- Reads the body of a group that looks around. -/
def readLook : Nat → Looking → Bool → Flags → Reading Ordered
  | 0, _, _, _ => throw unclosed
  | fuel + 1, looking, isNegated, flags => do
    let number := (← get).choices + 1
    let found ← alternatives fuel false flags
    take [')'] unclosed
    return .look isNegated <| match looking with
      | .ahead => joined number found
      | .behind => joined number (found.map fun r => .seq (.back 0) r)

/-- Reads a group that begins with a star. -/
def starred : Nat → Row → Reading Row
  | 0, _ => throw unclosed
  | fuel + 1, row => do
    let s ← remaining
    let word := s.takeWhile isWordChar
    let behind := s.drop word.length
    let name := String.ofList word
    if word.head?.any Char.isLower then
      match behind with
      | ':' :: rest =>
        goTo rest
        match looks.lookup name with
        | some (looking, isNegated) =>
          return row.push (← readLook fuel looking isNegated row.flags) true
        | none =>
          if name = "atomic" then return row.push (.whole (← readBody fuel false row.flags)) true
          else if ["sr", "script_run", "asr", "atomic_script_run"].contains name then
            return row.push (← readBody fuel false row.flags) true
          else throw "(*alpha_assertion) not recognized"
      | _ => throw "(*alpha_assertion) not recognized"
    else
      if word.isEmpty && behind.head? = some ')' then
        throw "quantifier does not follow a repeatable item"
      let given := (behind.drop 1).takeWhile (· != ')')
      let name? := if behind.head? = some ':' && !given.isEmpty then some given else none
      let after := behind.dropWhile (· != ')')
      match after with
      | [] => throw "(*VERB) not recognized or malformed"
      | _ :: after =>
        if !(behind.head? = some ':' || behind.head? = some ')') then
          throw "(*VERB) not recognized or malformed"
        match verb? (← get).choice name name? with
        | none => throw "(*VERB) not recognized or malformed"
        | some found =>
          if (name = "MARK" || name = "") && name?.isNone then
            throw "(*MARK) must have an argument"
          goTo after
          return { found.foldl (fun row r => row.push r false) row with
            canRepeat := name = "ACCEPT" }

/-- Reads a condition behind its opening parenthesis, and what it decides. -/
def condition : Nat → Flags → Reading Ordered
  | 0, _ => throw unclosed
  | fuel + 1, flags => do
    let s ← remaining
    let decided (make : Ordered → Ordered → Ordered) : Reading Ordered := do
      match ← alternatives fuel false flags with
      | [yes] => take [')'] unclosed; return make yes .empty
      | [yes, no] => take [')'] unclosed; return make yes no
      | _ => throw "conditional subpattern contains more than two branches"
    let closing : Reading Unit := take [')'] "missing closing parenthesis for condition"
    let looking (rest : Octets) (looking : Looking) (isNegated : Bool) : Reading Ordered := do
      goTo rest
      match ← readLook fuel looking isNegated flags with
      | .look _ seen => decided (.ifLook isNegated seen)
      | _ => throw unclosed
    let named (numbers : List Nat) : Reading Ordered := decided (.ifMatched numbers)
    match s with
    | [] => throw unclosed
    | '?' :: '=' :: rest => looking rest .ahead false
    | '?' :: '!' :: rest => looking rest .ahead true
    | '?' :: '<' :: '=' :: rest => looking rest .behind false
    | '?' :: '<' :: '!' :: rest => looking rest .behind true
    | '<' :: rest =>
      goTo rest
      let numbers ← numbersOf (← nameUpTo '>')
      closing
      named numbers
    | '\'' :: rest =>
      goTo rest
      let numbers ← numbersOf (← nameUpTo '\'')
      closing
      named numbers
    | 'R' :: '&' :: rest =>
      goTo rest
      let numbers ← numbersOf (← nameUpTo ')')
      decided (.ifCalled numbers.head?)
    | _ =>
      if "VERSION".toList.isPrefixOf s then
        let rest := s.drop 7
        let orMore := rest.head? == some '>'
        let rest := if orMore then rest.drop 1 else rest
        goTo rest
        take ['='] "syntax error or number too big in (?(VERSION condition"
        match Octets.readDigits 10 (← remaining) with
        | none => throw "syntax error or number too big in (?(VERSION condition"
        | some (major, rest) =>
          let (minor, rest) := match rest with
            | '.' :: rest => ((Octets.readDigits 10 (rest.take 2)).elim 0 (·.1),
                rest.dropWhile Char.isDigit)
            | _ => (0, rest)
          goTo rest
          closing
          let asked := major * 100 + minor
          let isSo := if orMore then asked ≤ 1042 else asked = 1042
          decided fun yes no => if isSo then yes else no
      else
        match ← groupNumber with
        | some number =>
          closing
          if number = 0 then throw noGroup
          let number ← ask number
          named [number]
        | none =>
          let name ← nameUpTo ')'
          let all? := (← get).all?
          let isKnown := all?.all fun groups => groups.names.any fun entry => entry.1 == name
          let digits := name.drop 1
          if isKnown && all?.isSome then named (← numbersOf name)
          else if name = ['R'] then decided (.ifCalled none)
          else if name.head? = some 'R' && digits.all Char.isDigit then
            let number ← ask (digits.foldl (fun n c => n * 10 + Octets.digitValue c) 0)
            decided (.ifCalled (some number))
          else if name = "DEFINE".toList then
            match ← alternatives fuel false flags with
            | [body] =>
              take [')'] unclosed
              return .ifMatched [] body .empty
            | _ => throw "DEFINE subpattern contains more than one branch"
          else named (← numbersOf name)

end

/-! ### Looking back -/

/-- The fault of looking back over texts of different lengths. -/
def notFixed : String := "lookbehind assertion is not fixed length"

/-- The expression with its ways back as long as what follows them takes. -/
def settle (root : Ordered) : Ordered → Except String Ordered
  | .seq (.back _) body => do
    let body ← settle root body
    match width? root 1000 body with
    | none => throw notFixed
    | some width => return .seq (.back width) body
  | .seq left right => return .seq (← settle root left) (← settle root right)
  | .either number left right => return .either number (← settle root left) (← settle root right)
  | .many manner least most body => return .many manner least most (← settle root body)
  | .group number body => return .group number (← settle root body)
  | .whole body => return .whole (← settle root body)
  | .look isNegated body => return .look isNegated (← settle root body)
  | .ifMatched numbers yes no => return .ifMatched numbers (← settle root yes) (← settle root no)
  | .ifCalled number? yes no => return .ifCalled number? (← settle root yes) (← settle root no)
  | .ifLook isNegated seen yes no =>
    return .ifLook isNegated (← settle root seen) (← settle root yes) (← settle root no)
  | r => return r

/-- Whether an expression moves the beginning of its match. -/
def keeps : Ordered → Bool
  | .keep => true
  | .seq left right => left.keeps || right.keeps
  | .either _ left right => left.keeps || right.keeps
  | .many _ _ _ body => body.keeps
  | .group _ body => body.keeps
  | .whole body => body.keeps
  | .look _ body => body.keeps
  | .ifMatched _ yes no => yes.keeps || no.keeps
  | .ifCalled _ yes no => yes.keeps || no.keeps
  | .ifLook _ seen yes no => seen.keeps || yes.keeps || no.keeps
  | _ => false

/-- Whether an expression moves the beginning of its match while it looks around. -/
def keepsInLook : Ordered → Bool
  | .seq left right => left.keepsInLook || right.keepsInLook
  | .either _ left right => left.keepsInLook || right.keepsInLook
  | .many _ _ _ body => body.keepsInLook
  | .group _ body => body.keepsInLook
  | .whole body => body.keepsInLook
  | .look _ body => body.keeps
  | .ifMatched _ yes no => yes.keepsInLook || no.keepsInLook
  | .ifCalled _ yes no => yes.keepsInLook || no.keepsInLook
  | .ifLook _ seen yes no => seen.keeps || yes.keepsInLook || no.keepsInLook
  | _ => false

/-! ### The whole -/

/-- The settings that can be made in front of an expression. -/
def settings : List String :=
  ["UTF", "UCP", "CR", "LF", "CRLF", "ANYCRLF", "ANY", "NUL", "BSR_ANYCRLF", "BSR_UNICODE",
   "NO_JIT", "NO_START_OPT", "NO_AUTO_POSSESS", "NO_DOTSTAR_ANCHOR", "NOTEMPTY",
   "NOTEMPTY_ATSTART"]

/-- The text behind the settings in front of it. -/
def behindSettings : Nat → Octets → Octets
  | 0, s => s
  | fuel + 1, s =>
    match s with
    | '(' :: '*' :: rest =>
      let word := rest.takeWhile (· != ')')
      let name := String.ofList (word.takeWhile (· != '='))
      let isLimit := name.startsWith "LIMIT_" && word.length != name.length
      if settings.contains name || isLimit then
        behindSettings fuel (rest.drop (word.length + 1))
      else s
    | _ => s

/-- Reads a whole text, given the groups if they are known. -/
def readOnce (flags : Flags) (all? : Option GroupIndex) (text : Octets) :
    Except String (Ordered × Notes) := do
  let (found, notes) ← (alternatives (8 * text.length + 64) false flags).run { rest := text, all? }
  if notes.rest.isEmpty then return (joined 1 found, notes)
  else throw "unmatched closing parenthesis"

/-- The expression that a text spells, under options. -/
def read (flags : Flags) (text : Octets) : Except String Ordered := do
  let text := behindSettings text.length text
  let (_, notes) ← readOnce flags none text
  let (found, notes) ← readOnce flags (some notes.groups) text
  if notes.groups.count < notes.asked then throw noGroup
  if found.keepsInLook then
    throw "\\K is not allowed in lookarounds (but see PCRE2_EXTRA_ALLOW_LOOKAROUND_BSK)"
  settle found found

end SyscallPolicy.Host.Regex.Ordered
