import SyscallPolicy.Host.Utility.Grep.Options
import SyscallPolicy.Host.Utility.Grep.Query

/-!
# Printing lines that match

A line is printed with a head that tells where it stands, and lines around it can be printed,
too.  Lines that are not next to each other are separated then.  Colours show the matches and
the parts of the head.
-/

namespace SyscallPolicy.Host.Utility.Grep

/-! ### Colours -/

/-- The colours of the parts of the output, each as a row of numbers. -/
structure Colors where
  selectedMatch : Octets := "01;31".toList
  contextMatch : Octets := "01;31".toList
  selectedLine : Octets := []
  contextLine : Octets := []
  fileName : Octets := "35".toList
  lineNumber : Octets := "32".toList
  offset : Octets := "32".toList
  separator : Octets := "36".toList
  /-- Whether lines change their colours where matches do not count. -/
  isReversed : Bool := false
  /-- Whether the rest of a line is cleared with each colour. -/
  clears : Bool := true

/-- Gives a colour to a part of the output. -/
def Colors.set (colors : Colors) (name : Octets) (value? : Option Octets) : Colors :=
  let value (old : Octets) : Octets := value?.getD old
  match String.ofList name with
  | "mt" =>
    let selected := value colors.selectedMatch
    { colors with selectedMatch := selected, contextMatch := selected }
  | "ms" => { colors with selectedMatch := value colors.selectedMatch }
  | "mc" => { colors with contextMatch := value colors.contextMatch }
  | "sl" => { colors with selectedLine := value colors.selectedLine }
  | "cx" => { colors with contextLine := value colors.contextLine }
  | "fn" => { colors with fileName := value colors.fileName }
  | "ln" => { colors with lineNumber := value colors.lineNumber }
  | "bn" => { colors with offset := value colors.offset }
  | "se" => { colors with separator := value colors.separator }
  | "rv" => { colors with isReversed := true }
  | "ne" => { colors with clears := false }
  | _ => colors

/-- Gives colours to parts of the output as a text asks for, up to where it makes no sense. -/
def Colors.read : List Octets → Colors → Colors
  | [], colors => colors
  | part :: rest, colors =>
    let name := part.takeWhile (· != '=')
    let value := part.drop (name.length + 1)
    if name.length = part.length then Colors.read rest (colors.set part none)
    else if name.isEmpty || !value.all fun c => c.isDigit || c == ';' then colors
    else Colors.read rest (colors.set name (some value))

/-- What begins a colour. -/
def Colors.opening (colors : Colors) (color : Octets) : Octets :=
  "\x1b[".toList ++ color ++ 'm' :: (if colors.clears then "\x1b[K".toList else [])

/-- A text in a colour. -/
def Colors.paint (colors : Colors) (color text : Octets) : Octets :=
  if color.isEmpty then text
  else colors.opening color ++ text ++ colors.opening []

/-! ### Lines -/

/-- A line of a file. -/
structure Line where
  /-- Its number, from one on. -/
  number : Nat
  /-- The number of bytes in front of it. -/
  offset : Nat
  text : Octets

/-- How lines are printed. -/
structure Look where
  settings : Settings
  query : Query
  colors? : Option Colors := none
  /-- The name of the file, if it is printed. -/
  name? : Option Octets := none
  /-- The width of numbers. -/
  width : Nat := 0

namespace Look

/-- A text in a colour, if there are colours. -/
def paint (look : Look) (color : Colors → Octets) (text : Octets) : Octets :=
  look.colors?.elim text fun colors => colors.paint (color colors) text

/-- The sign behind the name of a file. -/
def behindName (look : Look) (sign : Char) : Octets :=
  if look.settings.zeroNames then ['\x00'] else look.paint Colors.separator [sign]

/-- A number of the head, with a sign behind it. -/
def number (look : Look) (color : Colors → Octets) (sign : Char) (n : Nat) : Octets :=
  look.paint color (Octets.rightAligned look.width n) ++ look.paint Colors.separator [sign]

/-- What stands in front of a line or a part of it. -/
def head (look : Look) (sign : Char) (line offset : Nat) (isEmpty : Bool) : Octets :=
  let s := look.settings
  let name := look.name?.elim [] fun name =>
    look.paint Colors.fileName name ++ look.behindName sign
  let numbered := if s.hasNumbers then look.number Colors.lineNumber sign line else []
  let placed := if s.hasOffsets then look.number Colors.offset sign offset else []
  let front := name ++ numbered ++ placed
  if s.hasTab && !front.isEmpty && !isEmpty then front ++ ['\t'] else front

/-- The matches of a line, each in a line of its own. -/
def parts (look : Look) (color : Colors → Octets) (line : Line) : Octets :=
  let sign := if look.settings.isInverted then '-' else ':'
  (look.query.hits line.text).flatMap fun (start, stop) =>
    look.head sign line.number (line.offset + start) false ++
      look.paint color ((line.text.drop start).take (stop - start)) ++ [look.settings.ending]

/-- The parts of a line behind an index, with its matches in a colour. -/
def colored (colors : Colors) (lineColor matchColor text : Octets) :
    Nat → List (Nat × Nat) → Octets
  | index, [] =>
    let rest := text.drop index
    let isReturned := rest.getLast? == some '\r'
    let shown := if isReturned then rest.dropLast else rest
    (if shown.isEmpty then [] else colors.paint lineColor shown) ++
      (if isReturned then ['\r'] else [])
  | index, (start, stop) :: rest =>
    let front := (text.drop index).take (start - index)
    let opened := if lineColor.isEmpty then [] else colors.opening lineColor
    opened ++ front ++ colors.paint matchColor ((text.drop start).take (stop - start)) ++
      colored colors lineColor matchColor text stop rest

/-- A line, whether it counts or is context. -/
def line (look : Look) (counts : Bool) (line : Line) : Octets :=
  let s := look.settings
  let hasMatches := counts != s.isInverted
  let sign := if counts then ':' else '-'
  let matchColor (colors : Colors) : Octets :=
    if counts then colors.selectedMatch else colors.contextMatch
  if s.onlyMatches then (if hasMatches then look.parts matchColor line else [])
  else
    let body := match look.colors? with
      | none => line.text
      | some colors =>
        let takesSelected := counts != (s.isInverted && colors.isReversed)
        let lineColor := if takesSelected then colors.selectedLine else colors.contextLine
        let matchColor := matchColor colors
        let hits := if hasMatches && !matchColor.isEmpty then look.query.hits line.text else []
        colored colors lineColor matchColor line.text 0 hits
    look.head sign line.number line.offset line.text.isEmpty ++ body ++ [s.ending]

end Look

end SyscallPolicy.Host.Utility.Grep
