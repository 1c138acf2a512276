import SyscallPolicy.Host.Utility.Grep.Options
import SyscallPolicy.Host.Utility.Grep.Query

/-!
# Patterns of `grep`

Patterns come from options, from files, or from the first operand; each line is one.  What
is wrong with them is told for all of them, with the place of those that stand in files.
-/

namespace SyscallPolicy.Host.Utility.Grep

/-- A pattern as it is written, with the file and the line where it stands. -/
structure Written where
  text : Octets
  place? : Option (Octets × Nat) := none

/-- The lines of a text, where a line feed at its end opens no further one. -/
def patternLines (text : Octets) : List Octets :=
  if text.isEmpty then [] else Octets.lines text

/-- The files that patterns are taken from. -/
def patternFiles (sources : List PatternSource) : List Octets :=
  sources.filterMap fun
    | .file path => some path
    | .text _ => none

/-- The patterns that are given by options, with the texts of the files that they are taken
from, in the same order. -/
def given (call : Call) : List PatternSource → Texts → Except Finished (List Written)
  | [], _ => .ok []
  | .text text :: rest, texts => do
    return (Octets.cut '\n' text).map (fun text => { text }) ++ (← given call rest texts)
  | .file _ :: _, [] => .ok []
  | .file path :: rest, (_, found) :: texts => do
    let text ← match found with
      | .ok text => pure text
      | .error failure =>
        .error (fatal call ((if path = ['-'] then "(standard input)".toList else path) ++
          ": ".toList ++ failure.reason.toList))
    let own := (patternLines text).zipIdx.map fun (text, i) =>
      { text, place? := some (path, i + 1) : Written }
    return own ++ (← given call rest texts)

/-- The patterns without those that were there before. -/
def distinct (patterns : List Written) : List Written :=
  (patterns.foldl (fun found pattern =>
    if found.any fun known : Written => known.text == pattern.text then found
    else pattern :: found) []).reverse

/-- The complaint about what is wrong with a pattern. -/
def patternComplaint (call : Call) (pattern : Written) (fault : Regex.Fault) : Octets :=
  let place := pattern.place?.elim [] fun (path, line) =>
    path ++ ':' :: Octets.numeral line ++ ": ".toList
  call.complaint (place ++ fault.reason.toList)

/-- The extent of a match that is asked for. -/
def Settings.extent (s : Settings) : Extent :=
  if s.isLines then .line else if s.isWords then .word else .any

/-- The text of a pattern whose ways are tried in order, with what its extent asks for. -/
def withExtent (extent : Extent) (text : Octets) : Octets :=
  match extent with
  | .any => text
  | .word => "(?<!\\w)(?:".toList ++ text ++ ")(?!\\w)".toList
  | .line => "^(?:".toList ++ text ++ ")$".toList

/-- What patterns are read as: what to look for, and warnings about them. -/
structure PatternsRead where
  engine : Engine
  warnings : List Octets := []

/-- Reads a pattern whose ways are tried in order. -/
def readOrdered (call : Call) (s : Settings) (patterns : List Written) :
    Except Finished PatternsRead :=
  match patterns with
  | [pattern] =>
    match Regex.Ordered.read { ignoresCase := s.ignoresCase } pattern.text with
    | .error fault => .error (fatal call fault.toList)
    | .ok _ =>
      match Regex.Ordered.read { ignoresCase := s.ignoresCase }
          (withExtent s.extent pattern.text) with
      | .ok root => .ok { engine := .ordered root }
      | .error fault => .error (fatal call fault.toList)
  | _ => .error (fatal call "the -P option only supports a single pattern".toList)

/-- Reads patterns that stand for sets of texts. -/
def readPlain (call : Call) (s : Settings) (style : Regex.Style) (patterns : List Written) :
    Except Finished PatternsRead :=
  let results := patterns.map fun pattern => (pattern, Regex.read style pattern.text)
  let complaints := results.flatMap fun (pattern, result) =>
    match result with
    | .ok _ => []
    | .error fault => patternComplaint call pattern fault
  let found := results.filterMap fun result => result.2.toOption
  let bare := style != .fixed && patterns.any fun pattern =>
    Regex.hasBareClass (pattern.text.length + 1) pattern.text
  let idle := if style != .extended then []
    else patterns.flatMap fun pattern =>
      Regex.idleSigns ⟨true, true⟩ (Regex.tokens false pattern.text)
  let warnings := idle.map fun sign =>
    call.complaint ("warning: ".toList ++ sign.toList ++ " at start of expression".toList)
  if !complaints.isEmpty then .error (.saying 2 [] complaints)
  else if bare then
    .error (.saying 2 [] (warnings.flatten ++
      call.complaint "character class syntax is [[:space:]], not [:space:]".toList))
  else .ok { engine := .plain found s.extent, warnings }

/-- Reads patterns in the style that is asked for. -/
def readPatterns (call : Call) (s : Settings) (patterns : List Written) :
    Except Finished PatternsRead :=
  match s.written?.getD .basic with
  | .basic => readPlain call s .basic patterns
  | .extended => readPlain call s .extended patterns
  | .fixed => readPlain call s .fixed patterns
  | .ordered => readOrdered call s patterns

end SyscallPolicy.Host.Utility.Grep
