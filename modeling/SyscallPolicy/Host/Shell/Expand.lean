import SyscallPolicy.Host.Shell.Arithmetic
import SyscallPolicy.Host.Glob
import SyscallPolicy.Host.Shell.State

/-!
# Expansion of words

A word becomes a row of glyphs: characters that know whether they are quoted and whether
they may separate fields, and marks for where a field is in any case.  From glyphs come
the fields of a command, or the one text of an assignment.  What a command substitution
prints is asked from a function, since running commands is not the matter here.
-/

namespace SyscallPolicy.Host.Shell

/-- A part of a word that is being expanded. -/
inductive Glyph where
  | char (c : Char) (isQuoted canSplit : Bool)
  /-- A field is here, even if it is empty. -/
  | kept
  /-- One field ends here and another begins. -/
  | border
  /-- One parameter ends here and another begins, which only separates what is there. -/
  | gap
  deriving DecidableEq

namespace Glyph

/-- The glyphs of a text. -/
def ofText (isQuoted canSplit : Bool) (text : Octets) : List Glyph :=
  text.map fun c => char c isQuoted canSplit

/-- The characters of glyphs, with whether they are quoted. -/
def marked (glyphs : List Glyph) : Marked :=
  glyphs.filterMap fun
    | char c isQuoted _ => some (c, isQuoted)
    | _ => none

/-- The text of glyphs. -/
def text (glyphs : List Glyph) : Octets := (marked glyphs).text

end Glyph

/-- Fields that are being made. -/
structure Fields where
  /-- The complete ones, the last one first. -/
  complete : List Marked := []
  /-- The characters of the one that is being made, the last one first. -/
  current : Option Marked := none
  /-- Whether a separator that is no blank may still belong to the blanks before it. -/
  isOpen : Bool := false

namespace Fields

/-- Ends a field, even if it is not there. -/
def close (f : Fields) : Fields :=
  { complete := (f.current.getD []).reverse :: f.complete, current := none, isOpen := false }

/-- Takes a blank that separates. -/
def blank (f : Fields) : Fields :=
  if f.current.isSome then { f.close with isOpen := true } else f

/-- Takes a glyph. -/
def take (separators : Octets) (f : Fields) : Glyph → Fields
  | .kept => { f with current := some (f.current.getD []), isOpen := false }
  | .border => { f.close with current := some [] }
  | .gap => f.blank
  | .char c isQuoted canSplit =>
    if canSplit && separators.contains c then
      if c = ' ' ∨ c = '\t' ∨ c = '\n' then f.blank
      else if f.current.isNone && f.isOpen then { f with isOpen := false }
      else f.close
    else { f with current := some ((c, isQuoted) :: f.current.getD []), isOpen := false }

/-- The fields of glyphs. -/
def of (separators : Octets) (glyphs : List Glyph) : List Marked :=
  let f := glyphs.foldl (take separators) {}
  (if f.current.isSome then f.close else f).complete.reverse

end Fields

/-- The place of the home of a user, if there is such a user. -/
def State.home? (s : State) (user : Octets) : Option Octets :=
  if user.isEmpty then s.valueOf? "HOME".toList
  else if user = "root".toList then some "/root".toList
  else none

/-- The home that the tilde at the front of a word stands for, and what follows it. -/
def State.homeAtFront? (s : State) (endsAtColon : Bool) (word : Word) : Option (Octets × Word) :=
  match word with
  | .text false ('~' :: chars) :: rest =>
    let user := chars.takeWhile fun c => c != '/' && !(endsAtColon && c == ':')
    let behind := chars.drop user.length
    if behind.isEmpty && !rest.isEmpty then none
    else (s.home? user).map fun home => (home, .text false behind :: rest)
  | _ => none

/-- A word whose tilde at the front is replaced by a home. -/
def State.withHome (s : State) (word : Word) : Word :=
  match s.homeAtFront? false word with
  | some (home, rest) => .text true home :: rest
  | none => word

/-- The value of an assignment whose tildes at the front and behind colons are replaced. -/
def State.withHomes (s : State) : Nat → Bool → Word → Word
  | 0, _, word => word
  | fuel + 1, isFront, word =>
    match if isFront then s.homeAtFront? true word else none with
    | some (home, rest) => .text true home :: s.withHomes fuel false rest
    | none =>
      match word with
      | .text false chars :: rest =>
        let front := chars.takeWhile (· != ':')
        if front.length < chars.length then
          .text false (front ++ [':']) ::
            s.withHomes fuel true (.text false (chars.drop (front.length + 1)) :: rest)
        else .text false chars :: s.withHomes fuel false rest
      | piece :: rest => piece :: s.withHomes fuel false rest
      | [] => []

/-- What a command substitution comes to: the text that a script prints. -/
abbrev Substitute := Script → Deed Octets

/-- The output of a substitution as it stands in a word: without the line feeds at its end,
and without zeros. -/
def substituted (output : Octets) : Octets :=
  ((output.filter (· != '\x00')).reverse.dropWhile (· == '\n')).reverse

/-- The integer that a variable is in arithmetic: zero if it is not set or empty. -/
def State.number (name : Octets) (s : State) : Except Arithmetic.Fault Int :=
  let value := (s.valueOf? name).getD []
  match Octets.readInteger Octets.readMarked value with
  | some (n, rest) =>
    if rest.all Octets.isSpace && Octets.fitsInteger n then .ok n else .error (.badNumber value)
  | none => if value.all Octets.isSpace then .ok 0 else .error (.badNumber value)

/-- Gives an integer to a variable. -/
def State.setNumber (name : Octets) (n : Int) (s : State) : Except Arithmetic.Fault State :=
  if s.isFixed name then .error (.readOnly name)
  else .ok (s.withValue name (Octets.signedNumeral n))

/-- Works out an expression. -/
def State.calculate (text : Octets) (s : State) : Except Arithmetic.Fault (Int × State) := do
  (← Arithmetic.read text).value State.number State.setNumber s

/-- The glyphs of a list of parameters. -/
def State.listGlyphs (s : State) (isQuoted splits : Bool) (name : Char) : List Glyph :=
  if splits && isQuoted && name == '@' then
    let fields := s.parameters.map (Glyph.ofText true false)
    (if fields.isEmpty then [] else [.kept]) ++ (fields.intersperse [.border]).flatten
  else if splits && !isQuoted then
    ((s.parameters.map (Glyph.ofText false true)).intersperse [.gap]).flatten
  else Glyph.ofText isQuoted false (Octets.join s.joint s.parameters)

/-- The greatest length of a text for which there is time. -/
def greatestText : Nat := 4000000

namespace Deed

mutual

/-- Expands the pieces of a word.  Inside of an unquoted parameter plain text can separate
fields, too. -/
def expandPieces (substitute : Substitute) :
    Nat → (splits isInside : Bool) → Word → Deed (List Glyph)
  | 0, _, _, _ => expire
  | _, _, _, [] => return []
  | fuel + 1, splits, isInside, piece :: rest => do
    let glyphs ← expandPiece substitute fuel splits isInside piece
    if rest.isEmpty then
      labour (glyphs.length / 16)
      return glyphs
    else
      let more ← expandPieces substitute fuel splits isInside rest
      if greatestText < glyphs.length + more.length then expire
      labour (glyphs.length / 16)
      return glyphs ++ more

/-- Expands a piece of a word. -/
def expandPiece (substitute : Substitute) :
    Nat → (splits isInside : Bool) → Piece → Deed (List Glyph)
  | 0, _, _, _ => expire
  | fuel + 1, splits, isInside, piece => do
    let s ← get
    let shownText (isQuoted : Bool) (text : Octets) : List Glyph :=
      Glyph.ofText isQuoted (splits && !isQuoted) text
    match piece with
    | .text isQuoted chars => return Glyph.ofText isQuoted (splits && isInside && !isQuoted) chars
    | .quotes => return [.kept]
    | .substitution isQuoted body =>
      return shownText isQuoted (substituted (← substitute body))
    | .arithmetic isQuoted expression =>
      let text := Glyph.text (← expandPieces substitute fuel false false expression)
      match (← get).calculate text with
      | .error .quotientTooLarge => crash
      | .error fault => fail (fault.reason text)
      | .ok (n, s) =>
        set s
        return shownText isQuoted (Octets.signedNumeral n)
    | .parameter isQuoted name use =>
      let isList := name = ['@'] ∨ name = ['*']
      let value? := s.parameter? name
      let shown : List Glyph :=
        if isList then s.listGlyphs isQuoted splits (name.headD '@')
        else shownText isQuoted (value?.getD [])
      let missing {α : Type} (text : Octets) : Deed α := fail (name ++ ": ".toList ++ text)
      let isUnset := value?.isNone && s.has 'u'
      match use with
      | .nonsense => fail "Bad substitution".toList
      | .value =>
        if isUnset then missing "parameter not set".toList
        return shown
      | .length =>
        if isUnset then missing "parameter not set".toList
        return shownText isQuoted (Octets.numeral (value?.getD []).length)
      | .trim atEnd isLongest pattern =>
        if isUnset then missing "parameter not set".toList
        let glyphs ← expandPieces substitute fuel false false (s.withHome pattern)
        let pattern := Glob.read (Glyph.marked glyphs)
        let s ← get
        if isList && splits && (name = ['@'] || !isQuoted) then
          let parameters := Glob.trimAll atEnd isLongest pattern s.parameters
          return { s with parameters }.listGlyphs isQuoted splits (name.headD '@')
        else return shownText isQuoted (Glob.trim atEnd isLongest pattern (value?.getD []))
      | .fallback kind orEmpty word =>
        let isMissing := value?.isNone || (orEmpty && value? == some [])
        let word := if isQuoted then word else s.withHome word
        match kind with
        | .instead =>
          if isMissing then expandPieces substitute fuel splits (!isQuoted) word else return shown
        | .replace =>
          if isMissing then return [] else expandPieces substitute fuel splits (!isQuoted) word
        | .assign =>
          if !isMissing then return shown
          let value := Glyph.text (← expandPieces substitute fuel false false word)
          if isName name then
            assign name value
            return shownText isQuoted value
          else missing "bad variable name".toList
        | .complain =>
          if !isMissing then return shown
          let text := Glyph.text (← expandPieces substitute fuel false false word)
          if !word.isEmpty then missing text
          else if orEmpty then missing "parameter not set or null".toList
          else missing "parameter not set".toList

end

/-- The greatest depth of words. -/
def wordDepth : Nat := 100000

/-- The paths that a field names. -/
def paths (field : Marked) : Deed (List Octets) := do
  if Glob.isPattern field then
    return Glob.paths (← Act.look).trail (← get).here field
  else return [Marked.text field]

/-- The fields that a word becomes in a command. -/
def fields (substitute : Substitute) (word : Word) : Deed (List Octets) := do
  let glyphs ← expandPieces substitute wordDepth true false ((← get).withHome word)
  let s ← get
  let found := Fields.of s.separators glyphs
  if s.has 'f' then return found.map Marked.text
  else return (← found.mapM paths).flatten

/-- The characters that a word becomes where there are no fields. -/
def marked (substitute : Substitute) (word : Word) : Deed Marked := do
  return Glyph.marked (← expandPieces substitute wordDepth false false ((← get).withHome word))

/-- The text that a word becomes where there are no fields. -/
def text (substitute : Substitute) (word : Word) : Deed Octets := do
  return (← marked substitute word).text

/-- The text that a word becomes as the value of an assignment. -/
def assigned (substitute : Substitute) (word : Word) : Deed Octets := do
  let word := (← get).withHomes wordDepth true word
  return Glyph.text (← expandPieces substitute wordDepth false false word)

/-- The fields of words, one after the other. -/
def allFields (substitute : Substitute) : List Word → Deed (List Octets)
  | [] => return []
  | word :: rest => do
    let found ← fields substitute word
    return found ++ (← allFields substitute rest)

end Deed

end SyscallPolicy.Host.Shell
