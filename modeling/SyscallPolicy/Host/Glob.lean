import SyscallPolicy.Host.File
import SyscallPolicy.Host.Regex.Classes

/-!
# Patterns

A pattern is a text in which `*` stands for any text, `?` for any character, and brackets
for one of some characters, unless they are quoted.  A pattern is compared with texts, or
names the files whose paths it fits part by part.
-/

namespace SyscallPolicy.Host

/-- A character of a text, with whether it is quoted. -/
abbrev Marked := List (Char × Bool)

namespace Marked

/-- The text without its marks. -/
def text (m : Marked) : Octets := m.map (·.1)

/-- A text with each character marked alike. -/
def of (isQuoted : Bool) (s : Octets) : Marked := s.map fun c => (c, isQuoted)

end Marked

namespace Glob

/-- A part of a pattern. -/
inductive Item where
  | one (c : Char)
  | any
  | many
  | oneOf (set : CharSet)
  deriving DecidableEq, Repr

/-- Reads the members of a set, up to the bracket that closes it and may not come first. -/
def members : Nat → Bool → Marked → Option (List (Char × Char) × Marked)
  | 0, _, _ => none
  | _ + 1, false, (']', false) :: rest => some ([], rest)
  | fuel + 1, _, ('[', false) :: (':', _) :: rest =>
    let name := (rest.takeWhile fun m => m.1 != ':').map (·.1)
    match Regex.classRanges? name, rest.drop name.length with
    | some ranges, (':', _) :: (']', _) :: rest =>
      (members fuel false rest).map fun (more, rest) => (ranges ++ more, rest)
    | _, _ =>
      (members fuel false ((':', true) :: rest)).map fun (more, rest) => (('[', '[') :: more, rest)
  | fuel + 1, _, ('\\', false) :: (c, _) :: rest =>
    (members fuel false rest).map fun (more, rest) => ((c, c) :: more, rest)
  | fuel + 1, _, (low, _) :: ('-', false) :: (high, isQuoted) :: rest =>
    if high = ']' && !isQuoted then
      (members fuel false (('-', true) :: (high, isQuoted) :: rest)).map
        fun (more, rest) => ((low, low) :: more, rest)
    else (members fuel false rest).map fun (more, rest) => ((low, high) :: more, rest)
  | fuel + 1, _, (c, _) :: rest =>
    (members fuel false rest).map fun (more, rest) => ((c, c) :: more, rest)
  | _ + 1, _, [] => none

/-- The set behind an opening bracket, if it is closed. -/
def set? (m : Marked) : Option (CharSet × Marked) :=
  let isNegated := m.head? == some ('!', false)
  let body := if isNegated then m.drop 1 else m
  (members (body.length + 1) true body).map fun (ranges, rest) => (⟨ranges, isNegated⟩, rest)

/-- Reads a pattern.  A backslash that came in unquoted takes the meaning from the character
behind it. -/
def items : Nat → Marked → List Item
  | 0, _ => []
  | _, [] => []
  | fuel + 1, ('*', false) :: rest => .many :: items fuel rest
  | fuel + 1, ('?', false) :: rest => .any :: items fuel rest
  | fuel + 1, ('[', false) :: rest =>
    match set? rest with
    | some (set, rest) => .oneOf set :: items fuel rest
    | none => .one '[' :: items fuel rest
  | fuel + 1, ('\\', false) :: (c, _) :: rest => .one c :: items fuel rest
  | fuel + 1, (c, _) :: rest => .one c :: items fuel rest

/-- The pattern that a marked text is. -/
def read (m : Marked) : List Item :=
  items (m.length + 1) m

/-- Whether a pattern fits a whole text. -/
def fits : List Item → Octets → Bool
  | [], s => s.isEmpty
  | .many :: rest, s => (List.range (s.length + 1)).any fun n => fits rest (s.drop n)
  | .one d :: rest, c :: s => d == c && fits rest s
  | .any :: rest, _ :: s => fits rest s
  | .oneOf set :: rest, c :: s => set.has c && fits rest s
  | _ :: _, [] => false

/-- The text without the part at one of its ends that a pattern fits, the shortest or the
longest there is. -/
def trim (atEnd isLongest : Bool) (pattern : List Item) (s : Octets) : Octets :=
  let cuts := (List.range (s.length + 1)).filter fun n =>
    fits pattern (if atEnd then s.drop n else s.take n)
  let chosen := if atEnd != isLongest then cuts.getLast? else cuts.head?
  match chosen with
  | some n => if atEnd then s.take n else s.drop n
  | none => s

/-- Texts without the part at one of their ends that a pattern fits.  At the front only the
first text counts; at the end all that follows the place of the fit goes away. -/
def trimAll (atEnd isLongest : Bool) (pattern : List Item) (texts : List Octets) : List Octets :=
  if atEnd then
    let places := texts.zipIdx.flatMap fun (text, i) =>
      ((List.range (text.length + 1)).filter fun n => fits pattern (text.drop n)).map fun n =>
        texts.take i ++ [text.take n]
    ((if isLongest then places.head? else places.getLast?)).getD texts
  else
    match texts with
    | [] => []
    | text :: rest => trim atEnd isLongest pattern text :: rest

/-- Whether a text holds signs of a pattern that are not quoted. -/
def isPattern (m : Marked) : Bool :=
  m.any fun (c, isQuoted) => !isQuoted && (c == '*' || c == '?' || c == '[')

/-- Cuts a path at its slashes. -/
def cutPath : Marked → List Marked
  | [] => [[]]
  | (c, isQuoted) :: rest =>
    if c = '/' then [] :: cutPath rest
    else
      match cutPath rest with
      | [] => [[(c, isQuoted)]]
      | part :: parts => ((c, isQuoted) :: part) :: parts

/-- The names in a directory. -/
def names (trail : Trail) : FileNode → List Octets
  | .directory entries => entries.map fun entry => Octets.ofString entry.1
  | .descriptors => trail.descriptors.map Octets.numeral
  | _ => []

/-- The paths of files that parts of a path fit, behind a path so far. -/
def follow (trail : Trail) (here : List String) : Octets → List Marked → List Octets
  | before, [] => [before]
  | before, part :: rest =>
    let behind (name : Octets) : Octets :=
      before ++ name ++ (if rest.isEmpty then [] else ['/'])
    if isPattern part then
      let directory := if before.isEmpty then ['.'] else before
      match trail.find here (Octets.toText directory) with
      | .ok found =>
        if Trail.isDirectory found.node then
          let fitting := (".".toList :: "..".toList :: names trail found.node).filter fun name =>
            (name.head? != some '.' || part.head?.map (·.1) == some '.') && fits (read part) name
          (Octets.sort fitting).flatMap fun name => follow trail here (behind name) rest
        else []
      | .error _ => []
    else follow trail here (behind (Marked.text part)) rest

/-- The paths of the files that a pattern names, or the text itself if there are none. -/
def paths (trail : Trail) (here : List String) (m : Marked) : List Octets :=
  if isPattern m then
    let ofItself := { trail with followsLast := false }
    let found := (follow trail here [] (cutPath m)).filter fun path =>
      (ofItself.find here (Octets.toText path)).toOption.isSome
    if found.isEmpty then [Marked.text m] else found
  else [Marked.text m]

end Glob

end SyscallPolicy.Host
