import SyscallPolicy.Host.Regex.Classes

/-!
# Reading regular expressions

Two styles of writing share one meaning.  In the basic style the signs for groups,
choices, bounds, `+` and `?` have a backslash in front, and a sign means itself where it
has nothing to work on.  In the extended style they stand alone.  A text is cut into
tokens first, since what a sign means depends on its neighbours, and the tokens are then
read by the usual grammar.  Where a text cannot be cut any further, a token tells why, so
that the first fault is found first.
-/

namespace SyscallPolicy.Host.Regex

/-- What can be wrong with an expression. -/
inductive Fault where
  | openBracket
  | bareBracket
  | className
  | collation
  | rangeEnd
  | openGroup
  | closeGroup
  | openBounds
  | bounds
  | tooBig
  | backReference
  | trailingBackslash
  deriving DecidableEq, Repr

/-- What is wrong, in words. -/
def Fault.reason : Fault → String
  | openBracket => "Unmatched [, [^, [:, [., or [="
  | bareBracket => "Invalid regular expression"
  | className => "Invalid character class name"
  | collation => "Invalid collation character"
  | rangeEnd => "Invalid range end"
  | openGroup => "Unmatched ( or \\("
  | closeGroup => "Unmatched ) or \\)"
  | openBounds => "Unmatched \\\x7b"
  | bounds => "Invalid content of \\\x7b\\\x7d"
  | tooBig => "Regular expression too big"
  | backReference => "Invalid back reference"
  | trailingBackslash => "Trailing backslash"

/-- A token of an expression. -/
inductive Token where
  | one (set : CharSet)
  | first
  | last
  | edge (isNegated : Bool)
  | opening
  | closing
  | again (number : Nat)
  | openGroup
  | closeGroup
  | bar
  | times (sign : String) (least : Nat) (most : Option Nat)
  | fault (fault : Fault)
  deriving DecidableEq, Repr

/-! ### Sets -/

/-- The text in front of a closing pair of signs, and what follows the pair, behind which the
text must not end. -/
def upToPair (a b : Char) : Octets → Option (Octets × Octets)
  | c :: d :: rest =>
    if c = a ∧ d = b then some ([], rest)
    else (upToPair a b (d :: rest)).map fun (text, rest) => (c :: text, rest)
  | _ => none

/-- The greatest length of a name in a set. -/
def greatestName : Nat := 31

/-- A member of a set, or an end of a range. -/
inductive Member where
  | char (c : Char)
  | those (ranges : List (Char × Char))
  /-- A character that stands for all that count like it, and cannot be the end of a range. -/
  | alike (c : Char)

/-- The characters of a member. -/
def Member.chars : Member → List (Char × Char)
  | char c => [(c, c)]
  | those ranges => ranges
  | alike c => [(c, c)]

/-- Reads a member of a set.  A hyphen is a member where it comes first or last, or where it is
the end of a range. -/
def member (takesHyphen : Bool) : Octets → Except Fault (Member × Octets)
  | '[' :: sign :: rest =>
    if sign = ':' || sign = '.' || sign = '=' then
      match upToPair sign ']' rest with
      | none => .error .openBracket
      | some (name, rest) =>
        if greatestName < name.length then .error .openBracket
        else if sign = ':' then
          match classRanges? name with
          | some ranges => .ok (.those ranges, rest)
          | none => .error .className
        else
          match name with
          | [c] => .ok (if sign = '.' then .char c else .alike c, rest)
          | _ => .error .collation
    else .ok (.char '[', sign :: rest)
  | '-' :: rest =>
    if takesHyphen || rest.head? = some ']' then .ok (.char '-', rest) else .error .rangeEnd
  | c :: rest => .ok (.char c, rest)
  | [] => .error .openBracket

/-- Reads the members of a set up to its closing bracket, which is a member where it comes
first. -/
def members : Nat → Bool → Octets → Except Fault (List (Char × Char) × Octets)
  | 0, _, _ => .error .openBracket
  | _ + 1, false, ']' :: rest => .ok ([], rest)
  | fuel + 1, isFirst, s => do
    let (low, rest) ← member isFirst s
    let isRange := match low, rest with
      | .char _, '-' :: c :: _ => c != ']'
      | _, _ => false
    if isRange then
      let (high, rest) ← member true (rest.drop 1)
      match low, high with
      | .char low, .char high =>
        if high < low then throw .rangeEnd
        let (more, rest) ← members fuel false rest
        return ((low, high) :: more, rest)
      | _, _ => throw .rangeEnd
    else
      let (more, rest) ← members fuel false rest
      return (low.chars ++ more, rest)

/-- Whether a text has a range or a member in brackets of its own. -/
def hasRange : Octets → Bool
  | '[' :: c :: rest => c == ':' || c == '.' || c == '=' || hasRange (c :: rest)
  | _ :: '-' :: _ :: _ => true
  | _ :: rest => hasRange rest
  | [] => false

/-- Whether a text in brackets is a name between colons, which needs brackets of its own. -/
def isBareClass (text : Octets) : Bool :=
  text.length > 2 && text.head? == some ':' && text.getLast? == some ':' &&
    text.any (· != ':') && !hasRange text

/-- Reads a set after its opening bracket. -/
def set (s : Octets) : Except Fault (CharSet × Octets) := do
  let isNegated := s.head? == some '^'
  let body := if isNegated then s.drop 1 else s
  if body.isEmpty then throw .bareBracket
  let (ranges, rest) ← members (body.length + 1) true body
  return (⟨ranges, isNegated⟩, rest)

/-- Whether a set that begins here looks like a class that lacks brackets of its own. -/
def beginsBareClass (s : Octets) : Bool :=
  let body := if s.head? = some '^' then s.drop 1 else s
  match members (body.length + 1) true body with
  | .ok (_, rest) => isBareClass (body.take (body.length - rest.length - 1))
  | .error _ => false

/-! ### Bounds -/

/-- The greatest number of times that can be asked for. -/
def greatestBound : Nat := 32767

/-- How a number in bounds ends. -/
inductive BoundEnd where
  | closed
  | comma
  /-- The text ends. -/
  | never
  deriving DecidableEq

/-- Reads a number in bounds, up to a comma or the sign that closes them.  It may be missing;
otherwise it makes no sense if there is something else than digits. -/
def bound (closer : Octets) : Nat → Octets → Option (Option Nat) × BoundEnd × Octets
  | 0, _ => (none, .never, [])
  | _, [] => (none, .never, [])
  | fuel + 1, c :: rest =>
    if closer.isPrefixOf (c :: rest) then
      (some none, .closed, (c :: rest).drop closer.length)
    else if c = ',' then (some none, .comma, rest)
    else
      let skipped := if c = '\\' then rest.drop 1 else rest
      let (value, ending, after) := bound closer fuel skipped
      if ending = .never || !c.isDigit then (none, ending, after)
      else
        match value with
        | none => (none, ending, after)
        | some _ =>
          let digits := (c :: rest).takeWhile Char.isDigit
          let number := digits.foldl (fun n c => min (greatestBound + 1)
            (n * 10 + Octets.digitValue c)) 0
          (some (some number), ending, after)

/-- What bounds are read as. -/
inductive BoundsRead where
  | times (least : Nat) (most : Option Nat) (rest : Octets)
  | fault (fault : Fault)
  /-- They are none. -/
  | none (isOpen : Bool)

/-- Reads the bounds of a repetition, up to the sign that closes them. -/
def bounds (closer s : Octets) : BoundsRead :=
  let checked (least : Nat) (most : Option Nat) (ending : BoundEnd) (rest : Octets) :
      BoundsRead :=
    if most.any (· < least) || ending ≠ .closed then .fault .bounds
    else if greatestBound < most.getD least then .fault .tooBig
    else .times least most rest
  match bound closer (s.length + 1) s with
  | (some none, .closed, _) => .fault .bounds
  | (some (some n), .closed, rest) => checked n (some n) .closed rest
  | (some least, .comma, rest) =>
    match bound closer (rest.length + 1) rest with
    | (some most, ending, rest) => checked (least.getD 0) most ending rest
    | (none, ending, _) => .none (ending = .never)
  | (_, ending, _) => .none (ending = .never)

/-! ### Tokens -/

/-- A token for one character. -/
def ofChar (c : Char) : Token := .one ⟨[(c, c)], false⟩

/-- The token that a backslash makes of a character in both styles. -/
def escaped? (c : Char) : Option Token :=
  match c with
  | 'w' => some (.one ⟨wordChars, false⟩)
  | 'W' => some (.one ⟨wordChars, true⟩)
  | 's' => some (.one ⟨[('\t', '\r'), (' ', ' ')], false⟩)
  | 'S' => some (.one ⟨[('\t', '\r'), (' ', ' ')], true⟩)
  | 'b' => some (.edge false)
  | 'B' => some (.edge true)
  | '<' => some .opening
  | '>' => some .closing
  | '`' => some .first
  | '\'' => some .last
  | _ => if '1' ≤ c && c ≤ '9' then some (.again (Octets.digitValue c)) else none

/-- What stands in front of a token: whether nothing does, and whether nothing does that a
repetition could work on. -/
structure Front where
  isStart : Bool
  isFree : Bool

/-- What stands in front of the next token. -/
def Front.after (front : Front) : Token → Front
  | .openGroup => ⟨true, true⟩
  | .bar => ⟨true, true⟩
  | .first => ⟨false, front.isFree⟩
  | .edge _ => ⟨false, front.isFree⟩
  | .opening => ⟨false, front.isFree⟩
  | .last => ⟨false, front.isFree⟩
  | .closing => ⟨false, front.isFree⟩
  | _ => ⟨false, false⟩

/-- Cuts a basic expression into tokens. -/
def basicTokens : Nat → Front → Octets → List Token
  | 0, _, _ => []
  | _, _, [] => []
  | _, _, ['\\'] => [.fault .trailingBackslash]
  | fuel + 1, front, '\\' :: c :: rest =>
    let go (token : Token) (rest : Octets) : List Token :=
      token :: basicTokens fuel (front.after token) rest
    match c with
    | '(' => go .openGroup rest
    | ')' => go .closeGroup rest
    | '|' => go .bar rest
    | '+' => go (if front.isFree then ofChar '+' else .times "+" 1 none) rest
    | '?' => go (if front.isFree then ofChar '?' else .times "?" 0 (some 1)) rest
    | '\x7b' =>
      if front.isFree then go (ofChar c) rest
      else
        match bounds ['\\', '\x7d'] rest with
        | .times least most rest => go (.times "\x7b...\x7d" least most) rest
        | .fault fault => [.fault fault]
        | .none isOpen => [.fault (if isOpen then .openBounds else .bounds)]
    | _ => go ((escaped? c).getD (ofChar c)) rest
  | fuel + 1, front, c :: rest =>
    let go (token : Token) (rest : Octets) : List Token :=
      token :: basicTokens fuel (front.after token) rest
    let endsHere := rest.isEmpty || ['\\', ')'].isPrefixOf rest || ['\\', '|'].isPrefixOf rest
    match c with
    | '.' => go (.one ⟨[], true⟩) rest
    | '[' =>
      match set rest with
      | .ok (set, rest) => go (.one set) rest
      | .error fault => [.fault fault]
    | '*' => go (if front.isFree then ofChar '*' else .times "*" 0 none) rest
    | '^' => go (if front.isStart then .first else ofChar '^') rest
    | '$' => go (if endsHere then .last else ofChar '$') rest
    | _ => go (ofChar c) rest

/-- Cuts an extended expression into tokens. -/
def extendedTokens : Nat → Octets → List Token
  | 0, _ => []
  | _, [] => []
  | _, ['\\'] => [.fault .trailingBackslash]
  | fuel + 1, '\\' :: c :: rest => (escaped? c).getD (ofChar c) :: extendedTokens fuel rest
  | fuel + 1, c :: rest =>
    let go (token : Token) (rest : Octets) : List Token := token :: extendedTokens fuel rest
    match c with
    | '.' => go (.one ⟨[], true⟩) rest
    | '[' =>
      match set rest with
      | .ok (set, rest) => go (.one set) rest
      | .error fault => [.fault fault]
    | '*' => go (.times "*" 0 none) rest
    | '+' => go (.times "+" 1 none) rest
    | '?' => go (.times "?" 0 (some 1)) rest
    | '\x7b' =>
      match bounds ['\x7d'] rest with
      | .times least most rest => go (.times "\x7b...\x7d" least most) rest
      | .fault fault => [.fault fault]
      | .none _ => go (ofChar c) rest
    | '(' => go .openGroup rest
    | ')' => go .closeGroup rest
    | '|' => go .bar rest
    | '^' => go .first rest
    | '$' => go .last rest
    | _ => go (ofChar c) rest

/-! ### The grammar -/

/-- Applies the repetitions behind an expression. -/
def repeated (r : Regex) : List Token → Regex × List Token
  | .times _ least most :: rest => repeated (.many r least most) rest
  | rest => (r, rest)

/-- The tokens behind repetitions that have nothing to work on. -/
def behindTimes : List Token → List Token
  | .times _ _ _ :: rest => behindTimes rest
  | rest => rest

/-- How far groups were read. -/
structure GroupCount where
  opened : Nat := 0
  /-- The groups that were closed. -/
  closed : List Nat := []

mutual

/-- Reads choices.  The flag tells whether a group is to be closed. -/
def choices (isBasic : Bool) :
    Nat → Bool → GroupCount → List Token → Except Fault (Regex × GroupCount × List Token)
  | 0, _, _, _ => .error .tooBig
  | fuel + 1, isInside, groups, tokens => do
    let (left, groups, rest) ← factors isBasic fuel isInside groups tokens
    match rest with
    | .bar :: rest =>
      let (right, groups, rest) ← choices isBasic fuel isInside groups rest
      return (.either left right, groups, rest)
    | _ => return (left, groups, rest)

/-- Reads expressions that follow each other. -/
def factors (isBasic : Bool) :
    Nat → Bool → GroupCount → List Token → Except Fault (Regex × GroupCount × List Token)
  | 0, _, _, _ => .error .tooBig
  | fuel + 1, isInside, groups, tokens =>
    let go (r : Regex) (groups : GroupCount) (rest : List Token) :
        Except Fault (Regex × GroupCount × List Token) := do
      let (r, rest) := repeated r rest
      let (more, groups, rest) ← factors isBasic fuel isInside groups rest
      return (.seq r more, groups, rest)
    match tokens with
    | [] => .ok (.empty, groups, [])
    | .bar :: _ => .ok (.empty, groups, tokens)
    | .fault fault :: _ => .error fault
    | .closeGroup :: rest =>
      if isInside then .ok (.empty, groups, tokens)
      else if isBasic then .error .closeGroup
      else go (.one ⟨[(')', ')')], false⟩) groups rest
    | .openGroup :: rest => do
      let number := groups.opened + 1
      let (body, groups, rest) ← choices isBasic fuel true { groups with opened := number } rest
      match rest with
      | .closeGroup :: rest =>
        go (.group number body) { groups with closed := number :: groups.closed } rest
      | _ => throw .openGroup
    | .times .. :: rest =>
      match behindTimes rest with
      | .closeGroup :: rest => go (.one ⟨[(')', ')')], false⟩) groups rest
      | rest => factors isBasic fuel isInside groups rest
    | .one set :: rest => go (.one set) groups rest
    | .first :: rest => go .first groups rest
    | .last :: rest => go .last groups rest
    | .edge isNegated :: rest => go (.edge isNegated) groups rest
    | .opening :: rest => go .opening groups rest
    | .closing :: rest => go .closing groups rest
    | .again asked :: rest =>
      if groups.closed.contains asked then go (.again asked) groups rest
      else .error .backReference

end

/-- The style in which an expression is written. -/
inductive Style where
  | basic
  | extended
  /-- Each text stands for itself. -/
  | fixed
  deriving DecidableEq, Repr

/-- The tokens of an expression. -/
def tokens (isBasic : Bool) (text : Octets) : List Token :=
  if isBasic then basicTokens (text.length + 1) ⟨true, true⟩ text
  else extendedTokens (text.length + 1) text

/-- The expression that a text stands for. -/
def read (style : Style) (text : Octets) : Except Fault Regex := do
  let grammar (isBasic : Bool) : Except Fault Regex :=
    let tokens := tokens isBasic text
    (choices isBasic (4 * tokens.length + 4) false {} tokens).map fun found => found.1.prepared
  match style with
  | .fixed => return ofText text
  | .basic => grammar true
  | .extended => grammar false

/-! ### Warnings -/

/-- The signs of repetitions that have nothing to work on. -/
def idleSigns : Front → List Token → List String
  | _, [] => []
  | front, .times sign _ _ :: rest =>
    if front.isFree then sign :: idleSigns front rest else idleSigns front rest
  | front, token :: rest => idleSigns (front.after token) rest

/-- Whether there is a set in a text that looks like a class without brackets of its own. -/
def hasBareClass : Nat → Octets → Bool
  | 0, _ => false
  | fuel + 1, s =>
    match s with
    | [] => false
    | '\\' :: _ :: rest => hasBareClass fuel rest
    | '[' :: rest =>
      beginsBareClass rest ||
        match set rest with
        | .ok (_, rest) => hasBareClass fuel rest
        | .error _ => false
    | _ :: rest => hasBareClass fuel rest

end SyscallPolicy.Host.Regex
