import SyscallPolicy.Host.Utility.Grep.Files
import SyscallPolicy.Host.Utility.Grep.Patterns
import SyscallPolicy.Host.Utility.Grep.Report

/-!
# Searching in files

The lines of a file are gone through in order.  A line counts if it has a match, or if it has
none and the search is inverted.  What is printed depends on the lines before: context that is
still to come, and whether something was printed that is not next to it.
-/

namespace SyscallPolicy.Host.Utility.Grep

/-- A search. -/
structure Search where
  settings : Settings
  query : Query
  colors? : Option Colors := none
  /-- Whether names of files are printed; if this depends on them, on whether they were found
  in a directory. -/
  hasNames? : Option Bool
  /-- Whether the output goes away, so that one line that counts is enough. -/
  isDiscarded : Bool

namespace Search

/-- Whether one line that counts is enough. -/
def endsEarly (search : Search) : Bool :=
  search.settings.isQuiet || search.isDiscarded || search.settings.lists.isSome

/-- Whether lines are counted. -/
def isCount (search : Search) : Bool := search.settings.isCount && !search.endsEarly

end Search

/-- How far the search in a file has come. -/
structure Progress where
  /-- What is printed, the last part first. -/
  printed : List Octets := []
  /-- How many lines counted. -/
  count : Nat := 0
  /-- How many lines may still count. -/
  room? : Option Nat := none
  /-- How many lines of context are still to come. -/
  pending : Nat := 0
  /-- The number of the line that was printed last. -/
  last? : Option Nat := none
  /-- Whether something was printed, in this file or before. -/
  hasPrinted : Bool := false
  /-- The bytes up to the end of the last line that counted. -/
  consumed : Nat := 0
  /-- Whether no line counts any more. -/
  isOver : Bool := false
  /-- Whether the search was given up. -/
  isExceeded : Bool := false
  /-- The lines in front that may be printed, the next one first. -/
  before : List Line := []
  /-- The beginning of a line whose end was not yet read. -/
  rest : Octets := []
  /-- The number of the next line, and the bytes in front of it. -/
  number : Nat := 1
  offset : Nat := 0
  /-- Whether what was read is no text. -/
  isBinary : Bool := false

/-- Whether nothing more is to be read. -/
def Progress.isDone (p : Progress) : Bool := p.isExceeded || (p.isOver && p.pending = 0)

namespace Search

/-- Prints the line that separates lines which are not next to each other. -/
def separator (search : Search) : Octets :=
  match search.settings.separator? with
  | none => []
  | some text =>
    (search.colors?.elim text fun colors => colors.paint colors.separator text) ++ ['\n']

/-- The search in what is no text, of which lines are not printed. -/
def inBinary (search : Search) (isBinary : Bool) : Search :=
  if isBinary && !search.isCount then { search with isDiscarded := true } else search

/-- Whether lines are printed. -/
def isPrinting (search : Search) : Bool := !search.isCount && !search.endsEarly

/-- Takes a line that counts. -/
def select (search : Search) (look : Look) (line : Line) (p : Progress) : Progress :=
  let s := search.settings
  let counted :=
    { p with
      count := p.count + 1, room? := p.room?.map (· - 1), hasPrinted := true
      consumed := line.offset + line.text.length + 1
      isOver := p.room? = some 1 || search.endsEarly }
  if !search.isPrinting then counted
  else
    let fresh := (p.before.takeWhile fun line => p.last?.all (· < line.number)).take s.before
    let start := line.number - fresh.length
    let isNext := p.last?.any fun last => last + 1 = start
    let front := if s.hasContext && p.hasPrinted && !isNext then search.separator else []
    let shown := fresh.reverse.map (look.line false)
    { counted with
      printed := look.line true line :: (shown.reverse ++ (front :: p.printed))
      last? := some line.number, pending := s.after }

/-- Goes on with a line. -/
def take (search : Search) (look : Look) (p : Progress) (text : Octets) : Progress :=
  let line : Line := { number := p.number, offset := p.offset, text }
  let verdict := if p.isOver then .missing else search.query.judge text
  let counts := !p.isOver && (verdict = .found) != search.settings.isInverted
  let next :=
    if p.isDone then p
    else if verdict = .tooMuch then { p with isExceeded := true }
    else if counts then search.select look line p
    else if 0 < p.pending then
      { p with
        printed := look.line false line :: p.printed, pending := p.pending - 1
        last? := some line.number }
    else p
  { next with
    before := (line :: p.before).take search.settings.before
    number := p.number + 1, offset := p.offset + text.length + 1 }

/-- Goes on with a portion of a file; an empty one is its end. -/
def read (search : Search) (look : Look) (p : Progress) (portion : Octets) : Progress :=
  let s := search.settings
  let isText := s.endsWithZero || s.binary = .text || !portion.contains '\x00'
  let p := { p with isBinary := p.isBinary || !isText }
  let isEnd (c : Char) : Bool := c == s.ending || (p.isBinary && c == '\x00')
  let lines := portion.splitOnP isEnd
  let lines := match lines with
    | first :: rest => (p.rest ++ first) :: rest
    | [] => [p.rest]
  let isLast := portion.isEmpty
  let rest := lines.getLast?.getD []
  let whole := if isLast && rest.isEmpty || !isLast then lines.dropLast else lines
  let search := search.inBinary p.isBinary
  if p.isBinary && s.binary = .never then
    { p with count := 0, isOver := true, pending := 0 }
  else { whole.foldl (search.take look) p with rest := if isLast then [] else rest }

/-- What the search in a file comes to. -/
structure Result where
  prints : List (Outlet × Octets) := []
  count : Nat := 0
  isFaulty : Bool := false
  /-- Whether the whole search ends. -/
  isFatal : Bool := false
  hasPrinted : Bool := false

/-- The digits of the greatest offset and number in a file, where they are to be aligned. -/
def widthFor (search : Search) (call : Call) (source : Source) : Nat :=
  let s := search.settings
  if !s.hasTab then 0
  else
    match source.channel?.bind call.view.sizeOf? with
    | some size => (Octets.numeral (size + (if s.hasNumbers then 1 else 0))).length
    | none => 20

/-- How the lines of a file are printed. -/
def lookAt (search : Search) (call : Call) (source : Source) : Look :=
  { settings := search.settings, query := search.query, colors? := search.colors?
    name? := if search.hasNames?.getD source.isInside then some source.name else none
    width := search.widthFor call source }

/-- Tells what is to be told behind the lines of a file. -/
def conclude (search : Search) (call : Call) (look : Look) (source : Source) (p : Progress) :
    Result :=
  let s := search.settings
  let isTold := p.isBinary && s.binary != .never
  let name := look.paint Colors.fileName source.name
  let counted := if !search.isCount then []
    else (if look.name?.isSome then name ++ look.behindName ':' else []) ++
      Octets.numeral p.count ++ ['\n']
  let listed := if s.isQuiet || s.lists != some (p.count != 0) then []
    else name ++ [if s.zeroNames then '\x00' else '\n']
  let told := if isTold && !search.isCount && !search.endsEarly && p.count != 0 then
      call.complaint (source.name ++ ": binary file matches".toList)
    else []
  let exceeded := if p.isExceeded then
      call.complaint (source.name ++ ": exceeded PCRE's backtracking limit".toList)
    else []
  { prints := [(.output, p.printed.reverse.flatten ++ counted ++ listed), (.complaints, told),
      (.complaints, exceeded)]
    count := p.count, isFatal := p.isExceeded, hasPrinted := p.hasPrinted }

/-- Whether a file cannot be searched in since it is where the output goes. -/
def isOwnSink (search : Search) (call : Call) (source : Source) : Bool :=
  let s := search.settings
  !search.endsEarly && !search.isCount && s.most.all (1 < ·) &&
    match source.channel?, call.channel? 1 with
    | some (.file place), some (.file sink) => place == sink
    | _, _ => false

/-- The bytes that are read at once. -/
def portion : Nat := 98304

/-- The size from which on output is written at once. -/
def greatestDelay : Nat := 4096

/-- Goes on with a portion of a file, and writes what has been printed if it is much. -/
def step (search : Search) (call : Call) (look : Look) (p : Progress) (text : Octets) :
    Act Progress := do
  let p := search.read look p text
  let size := p.printed.foldl (fun n part => n + part.length) 0
  let isDue := greatestDelay < size || (search.settings.flushes && 0 < size)
  if text.isEmpty || !isDue then return p
  call.put 2 p.printed.reverse.flatten
  return { p with printed := [] }

/-- Leaves the standard input behind as others find it, if the search ended before it did. -/
def leave (search : Search) (call : Call) (p : Progress) : Act Unit := do
  let s := search.settings
  if !p.isOver || s.isQuiet then return
  match call.view.openFile? 0 with
  | some { channel := .file place, offset, .. } =>
    if s.most = some p.count then Act.seek 0 (offset + p.consumed)
    else Act.seek 0 (((call.view.sizeOf? (.file place))).getD 0)
  | _ =>
    if s.most != some p.count && search.isDiscarded then
      let _ ← Call.eachPortion 0 portion (fun _ => false) (fun _ _ => return ())
        Call.greatestPortions ()

/-- Searches in a file. -/
def inSource (search : Search) (call : Call) (source : Source) (hasPrinted : Bool) :
    Act Result := do
  let s := search.settings
  let complain (failure : FileFailure) : Outlet × Octets :=
    (.complaints, if s.isSilent then [] else
      call.complaint (source.name ++ ": ".toList ++ failure.reason.toList))
  let refuse (failure : FileFailure) : Result :=
    { prints := [complain failure], isFaulty := true, hasPrinted }
  if search.isOwnSink call source then
    let text := source.name ++ ": input file is also the output".toList
    return { prints := [(.complaints, if s.isSilent then [] else call.complaint text)]
             isFaulty := true, hasPrinted }
  if let some failure := source.failure? then return refuse failure
  let look := search.lookAt call source
  let start : Progress := { hasPrinted, room? := s.most, isOver := s.most = some 0 }
  let found ← call.source source.path fun descriptor =>
    Call.eachPortion descriptor portion Progress.isDone (search.step call look)
      Call.greatestPortions start
  match found with
  | .error failure => return refuse failure
  | .ok (p, failure?) =>
    if source.isInput then search.leave call p
    let p := if failure?.isSome then search.read look p [] else p
    let result := search.conclude call look source p
    match failure? with
    | none => return result
    | some failure =>
      return { result with prints := complain failure :: result.prints, isFaulty := true }

/-- Searches in files one after the other. -/
def inSources (search : Search) (call : Call) : List Source → Bool → Act (List Result)
  | [], _ => return []
  | source :: rest, hasPrinted => do
    let result ← search.inSource call source hasPrinted
    if result.isFatal || (search.settings.isQuiet && result.count != 0) then return [result]
    else return result :: (← search.inSources call rest result.hasPrinted)

/-- Searches in files, and tells what is to be told of them. -/
def run (search : Search) (call : Call) (operands : List Octets) (warnings : Octets) :
    Act Finished := do
  let results ← search.inSources call (sources call search.settings operands) false
  let isFaulty := results.any fun result => result.isFaulty || result.isFatal
  let isFound := results.any fun result => result.count != 0
  return {
    status :=
      if search.settings.isQuiet && isFound then 0
      else if isFaulty then 2
      else if isFound then 0
      else 1
    prints := (.complaints, warnings) :: results.flatMap (·.prints)
    unwritten := 2 }

end Search

/-- The colours that are asked for by the environment. -/
def colorsOf (call : Call) : Colors :=
  match call.environment.lookup "GREP_COLORS".toList with
  | some text => if text.isEmpty then {} else Colors.read (Octets.cut ':' text) {}
  | none => {}

/-- What options ask to be searched for and where, if that makes sense. -/
structure Order where
  search : Search
  operands : List Octets
  warnings : Octets

/-- What is ordered by options and operands, given the texts of files with patterns. -/
def order (call : Call) (s : Settings) (sources : List PatternSource) (texts : Texts)
    (operands : List Octets) : Except Finished Order := do
  let warnings := s.warnings.flatMap call.complaint
  let patterns := distinct (← given call sources texts)
  let isNothing := patterns.isEmpty
  let s := if isNothing then
      { s with isInverted := !s.isInverted, isWords := false, isLines := false }
    else s
  let isEmpty := isNothing || (patterns.map (·.text)) = [[]]
  if s.lists != some false &&
      (s.most = some 0 || (isEmpty && s.isInverted && !s.isWords && !s.isLines)) then
    .error (.saying 1 [] warnings)
  let patterns := if isNothing then [{ text := [] }] else patterns
  let read ← readPatterns call s patterns
  let search : Search :=
    { settings := s, query := { engine := read.engine, ignoresCase := s.ignoresCase }
      colors? := if s.isColored then some (colorsOf call) else none
      hasNames? :=
        match s.hasNames? with
        | some hasNames => some hasNames
        | none =>
          if operands.length > 1 then some true
          else if s.directories = .recurse then none
          else some false
      isDiscarded := call.channel? 1 = some (.device .sink) }
  return { search, operands, warnings := warnings ++ read.warnings.flatten }

/-- Searches files for patterns as options ask for. -/
def search (call : Call) (s : Settings) (operands : List Octets) : Act Finished := do
  let ordered : Except Finished (List PatternSource × List Octets) :=
    match s.patterns, operands with
    | [], text :: operands => .ok ([.text text], operands)
    | [], [] => .error (.saying 2 [] (usage call))
    | sources, operands => .ok (sources, operands)
  match ordered with
  | .error finished => return finished
  | .ok (sources, operands) =>
    let texts ← call.texts (patternFiles sources)
    match order call s sources texts operands with
    | .error finished => return finished
    | .ok order => order.search.run call order.operands order.warnings

end SyscallPolicy.Host.Utility.Grep

namespace SyscallPolicy.Host.Utility

/-- Searches files for patterns. -/
def grep (call : Call) : Act Nat := do
  let a := call.arguments Grep.grepOptions
  let texts ← call.texts (Grep.sieveFiles a.options)
  match Grep.Settings.read call texts a.options, a.fault? with
  | .error finished, _ => call.tell finished
  | .ok _, some fault => call.tell (.saying 2 [] (call.complaint fault.reason ++ Grep.usage call))
  | .ok s, none =>
    if s.isVersion then call.tell (.saying 0 "grep (GNU grep) 3.11\n".toList [])
    else if s.isHelp then
      call.tell (.saying 0 "Usage: grep [OPTION]... PATTERNS [FILE]...\n".toList [])
    else call.tell (← Grep.search call s a.operands)

end SyscallPolicy.Host.Utility
