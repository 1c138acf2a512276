import SyscallPolicy.Host.Utility.Basic
import SyscallPolicy.Host.Utility.Quoting

/-!
# Options of `grep`

What the options of a search ask for, besides its patterns.  They are looked at from left to
right, and the first one that makes no sense ends the search.
-/

namespace SyscallPolicy.Host.Utility.Grep

/-- The style in which patterns are written. -/
inductive Syntax where
  | basic
  | extended
  | fixed
  /-- Their ways to match are tried in order. -/
  | ordered
  deriving DecidableEq

/-- Where output is asked for that stands around the lines that count. -/
inductive Context where
  | before
  | after
  | both
  deriving DecidableEq

/-- Which files are passed over. -/
inductive Sieve where
  | exclude
  | include
  | excludeFrom
  | excludeDirectory
  deriving DecidableEq

/-- The options of `grep`. -/
inductive GrepOption where
  | written (written : Syntax)
  | writtenAs
  | pattern
  | patternFile
  | ignoreCase
  | keepCase
  | words
  | lines
  | zeros
  | silent
  | invert
  | version
  | help
  | most
  | offsets
  | numbers
  | flushes
  | names
  | noNames
  | label
  | onlyMatches
  | quiet
  | binaryAs
  | text
  | skipBinary
  | directories
  | devices
  | recursive
  | sieve (sieve : Sieve)
  | listOthers
  | list
  | count
  | tab
  | zeroNames
  | context (context : Context)
  | digit (digit : Nat)
  | separator
  | noSeparator
  | color
  | binary
  | unixOffsets
  deriving DecidableEq

/-- The table of the options of `grep`. -/
def grepOptions : OptionTable GrepOption :=
  { letters := [('A', .value, .context .after), ('B', .value, .context .before),
      ('C', .value, .context .both), ('D', .value, .devices), ('E', .nothing, .written .extended),
      ('F', .nothing, .written .fixed), ('G', .nothing, .written .basic), ('H', .nothing, .names),
      ('I', .nothing, .skipBinary), ('L', .nothing, .listOthers),
      ('P', .nothing, .written .ordered), ('T', .nothing, .tab), ('U', .nothing, .binary),
      ('V', .nothing, .version), ('X', .value, .writtenAs), ('Z', .nothing, .zeroNames),
      ('a', .nothing, .text), ('b', .nothing, .offsets), ('c', .nothing, .count),
      ('d', .value, .directories), ('e', .value, .pattern), ('f', .value, .patternFile),
      ('h', .nothing, .noNames), ('i', .nothing, .ignoreCase), ('l', .nothing, .list),
      ('m', .value, .most), ('n', .nothing, .numbers), ('o', .nothing, .onlyMatches),
      ('q', .nothing, .quiet), ('R', .nothing, .recursive), ('r', .nothing, .recursive),
      ('s', .nothing, .silent), ('u', .nothing, .unixOffsets), ('v', .nothing, .invert),
      ('w', .nothing, .words), ('x', .nothing, .lines), ('y', .nothing, .ignoreCase),
      ('z', .nothing, .zeros)] ++
      (List.range 10).map fun n => (Char.ofNat (48 + n), .nothing, .digit n)
    words := [("basic-regexp", .nothing, .written .basic),
      ("extended-regexp", .nothing, .written .extended),
      ("fixed-regexp", .nothing, .written .fixed), ("fixed-strings", .nothing, .written .fixed),
      ("perl-regexp", .nothing, .written .ordered), ("after-context", .value, .context .after),
      ("before-context", .value, .context .before), ("binary-files", .value, .binaryAs),
      ("binary", .nothing, .binary), ("byte-offset", .nothing, .offsets),
      ("context", .value, .context .both), ("color", .maybe, .color), ("colour", .maybe, .color),
      ("count", .nothing, .count), ("devices", .value, .devices),
      ("directories", .value, .directories), ("exclude", .value, .sieve .exclude),
      ("exclude-from", .value, .sieve .excludeFrom),
      ("exclude-dir", .value, .sieve .excludeDirectory), ("file", .value, .patternFile),
      ("files-with-matches", .nothing, .list), ("files-without-match", .nothing, .listOthers),
      ("group-separator", .value, .separator), ("help", .nothing, .help),
      ("include", .value, .sieve .include), ("ignore-case", .nothing, .ignoreCase),
      ("no-ignore-case", .nothing, .keepCase), ("initial-tab", .nothing, .tab),
      ("label", .value, .label), ("line-buffered", .nothing, .flushes),
      ("line-number", .nothing, .numbers), ("line-regexp", .nothing, .lines),
      ("max-count", .value, .most), ("no-filename", .nothing, .noNames),
      ("no-group-separator", .nothing, .noSeparator), ("no-messages", .nothing, .silent),
      ("null", .nothing, .zeroNames), ("null-data", .nothing, .zeros),
      ("only-matching", .nothing, .onlyMatches), ("quiet", .nothing, .quiet),
      ("recursive", .nothing, .recursive), ("dereference-recursive", .nothing, .recursive),
      ("regexp", .value, .pattern), ("invert-match", .nothing, .invert),
      ("silent", .nothing, .quiet), ("text", .nothing, .text),
      ("unix-byte-offsets", .nothing, .unixOffsets), ("version", .nothing, .version),
      ("with-filename", .nothing, .names), ("word-regexp", .nothing, .words)] }

/-- What is done with files that are no text. -/
inductive BinaryUse where
  /-- It is only told whether they match. -/
  | tell
  /-- They are taken for text. -/
  | text
  /-- They never match. -/
  | never
  deriving DecidableEq

/-- What is done with directories. -/
inductive DirectoryUse where
  | read
  | skip
  | recurse
  deriving DecidableEq

/-- Where the text of patterns comes from. -/
inductive PatternSource where
  | text (text : Octets)
  | file (path : Octets)

/-- What options ask for. -/
structure Settings where
  written? : Option Syntax := none
  patterns : List PatternSource := []
  ignoresCase : Bool := false
  isWords : Bool := false
  isLines : Bool := false
  endsWithZero : Bool := false
  isSilent : Bool := false
  isInverted : Bool := false
  most : Option Nat := none
  hasOffsets : Bool := false
  hasNumbers : Bool := false
  flushes : Bool := false
  hasNames? : Option Bool := none
  inputName : Octets := "(standard input)".toList
  onlyMatches : Bool := false
  isQuiet : Bool := false
  binary : BinaryUse := .tell
  directories : DirectoryUse := .read
  skipsDevices? : Option Bool := none
  /-- Globs for files, with whether they say which ones are taken; the last one comes first. -/
  sieves : List (Bool × Octets) := []
  /-- Globs for directories that are passed over. -/
  closed : List Octets := []
  /-- Whether names of files are listed: of those that match, or of the others. -/
  lists : Option Bool := none
  isCount : Bool := false
  hasTab : Bool := false
  zeroNames : Bool := false
  before? : Option Nat := none
  after? : Option Nat := none
  /-- Lines of context on both sides, where nothing else is said. -/
  around? : Option Nat := none
  /-- The digits of a number of lines that is given as an option. -/
  digits : Octets := []
  separator? : Option Octets := some ['-', '-']
  isColored : Bool := false
  isHelp : Bool := false
  isVersion : Bool := false
  warnings : List Octets := []

/-- The complaint about a word that is not among those that can be given. -/
def usage (call : Call) : Octets :=
  "Usage: grep [OPTION]... PATTERNS [FILE]...\n".toList ++ call.hint

/-- A search that comes to nothing. -/
def fatal (call : Call) (text : Octets) : Finished := call.fail 2 text

/-- The greatest number that counts; a greater one is no bound. -/
def greatest : Nat := 9223372036854775807

/-- The number that a text is, if it is one; numbers that are too great are taken for the
greatest one. -/
def integer? (text : Octets) : Option Int :=
  match Octets.readInteger (Octets.readDigits 10) text with
  | some (n, []) => some (max (-greatest) (min n greatest))
  | _ => none

/-- The number of lines of context that a text asks for. -/
def contextLength? (text : Octets) : Option Nat :=
  match integer? text with
  | some n => if 0 ≤ n then some n.toNat else none
  | none => none

/-- Sets the lines of context that are asked for. -/
def Settings.setContext (s : Settings) (context : Context) (n : Nat) : Settings :=
  match context with
  | .before => { s with before? := some n }
  | .after => { s with after? := some n }
  | .both => { s with around? := some n }

/-- Chooses the style of patterns, which cannot be chosen twice in different ways. -/
def Settings.write (s : Settings) (call : Call) (written : Syntax) : Except Finished Settings :=
  if s.written?.any (· != written) then
    .error (fatal call "conflicting matchers specified".toList)
  else .ok { s with written? := some written }

/-- What is asked for by a word for a style of patterns. -/
def syntax? (word : Octets) : Option Syntax :=
  [("grep", .basic), ("egrep", .extended), ("fgrep", .fixed), ("awk", .extended),
   ("gawk", .extended), ("posixawk", .extended), ("perl", .ordered)].lookup (String.ofList word)

/-- The globs in a file, one in each line. -/
def globsIn (text : Octets) : List Octets :=
  (Octets.lines text).filter fun line => !line.isEmpty

/-- Texts of files, or why they cannot be read. -/
abbrev Texts := List (Octets × Except FileFailure Octets)

/-- The text of a file among others. -/
def Texts.at (texts : Texts) (path : Octets) : Except FileFailure Octets :=
  (texts.lookup path).getD (.error .notFound)

/-- Looks at one option, given the texts of files that options name. -/
def Settings.take (call : Call) (texts : Texts) (s : Settings) (given : Given GrepOption) :
    Except Finished Settings :=
  let value := given.value.getD []
  match given.option with
  | .written written => s.write call written
  | .writtenAs =>
    match syntax? value with
    | some written => s.write call written
    | none => .error (fatal call ("invalid matcher ".toList ++ value))
  | .pattern => .ok { s with patterns := s.patterns ++ [.text value] }
  | .patternFile => .ok { s with patterns := s.patterns ++ [.file value] }
  | .ignoreCase => .ok { s with ignoresCase := true }
  | .keepCase => .ok { s with ignoresCase := false }
  | .words => .ok { s with isWords := true }
  | .lines => .ok { s with isLines := true }
  | .zeros => .ok { s with endsWithZero := true }
  | .silent => .ok { s with isSilent := true }
  | .invert => .ok { s with isInverted := true }
  | .version => .ok { s with isVersion := true }
  | .help => .ok { s with isHelp := true }
  | .most =>
    match integer? value with
    | some n => .ok { s with most := if n < 0 || n = greatest then none else some n.toNat }
    | none => .error (fatal call "invalid max count".toList)
  | .offsets => .ok { s with hasOffsets := true }
  | .numbers => .ok { s with hasNumbers := true }
  | .flushes => .ok { s with flushes := true }
  | .names => .ok { s with hasNames? := some true }
  | .noNames => .ok { s with hasNames? := some false }
  | .label => .ok { s with inputName := value }
  | .onlyMatches => .ok { s with onlyMatches := true }
  | .quiet => .ok { s with isQuiet := true }
  | .binaryAs =>
    match ([("binary", .tell), ("text", .text), ("without-match", .never)] :
        List (String × BinaryUse)).lookup (String.ofList value) with
    | some binary => .ok { s with binary }
    | none => .error (fatal call "unknown binary-files type".toList)
  | .text => .ok { s with binary := .text }
  | .skipBinary => .ok { s with binary := .never }
  | .directories =>
    let known : List (String × DirectoryUse) :=
      [("read", .read), ("recurse", .recurse), ("skip", .skip)]
    match known.filter fun known => value.isPrefixOf known.1.toList with
    | [(_, directories)] => .ok { s with directories }
    | found =>
      let problem := if found.isEmpty then "invalid" else "ambiguous"
      .error (.saying 1 [] (call.complaint (problem.toList ++ " argument ".toList ++
          inPlainQuotes value ++ " for '--directories'".toList) ++
        "Valid arguments are:\n".toList ++
        (known.flatMap fun word => "  - '".toList ++ word.1.toList ++ ['\'', '\n']) ++ usage call))
  | .devices =>
    if value = "read".toList then .ok { s with skipsDevices? := some false }
    else if value = "skip".toList then .ok { s with skipsDevices? := some true }
    else .error (fatal call "unknown devices method".toList)
  | .recursive => .ok { s with directories := .recurse }
  | .sieve .exclude => .ok { s with sieves := (false, value) :: s.sieves }
  | .sieve .include => .ok { s with sieves := (true, value) :: s.sieves }
  | .sieve .excludeDirectory => .ok { s with closed := value :: s.closed }
  | .sieve .excludeFrom =>
    match texts.at value with
    | .ok text =>
      .ok { s with sieves := (globsIn text).map (fun glob => (false, glob)) ++ s.sieves }
    | .error failure =>
      .error (fatal call (value ++ ": ".toList ++ failure.reason.toList))
  | .listOthers => .ok { s with lists := some false }
  | .list => .ok { s with lists := some true }
  | .count => .ok { s with isCount := true }
  | .tab => .ok { s with hasTab := true }
  | .zeroNames => .ok { s with zeroNames := true }
  | .context context =>
    match contextLength? value with
    | some n => .ok (s.setContext context n)
    | none =>
      .error (fatal call (value ++ ": invalid context length argument".toList))
  | .digit n =>
    let digits := (if given.begins then [] else s.digits) ++ Octets.numeral n
    .ok { s with digits, around? := contextLength? digits }
  | .separator => .ok { s with separator? := some value }
  | .noSeparator => .ok { s with separator? := none }
  | .color =>
    match String.ofList (given.value.getD "auto".toList) with
    | "always" => .ok { s with isColored := true }
    | "yes" => .ok { s with isColored := true }
    | "force" => .ok { s with isColored := true }
    | "never" => .ok { s with isColored := false }
    | "no" => .ok { s with isColored := false }
    | "none" => .ok { s with isColored := false }
    | "auto" => .ok { s with isColored := false }
    | "tty" => .ok { s with isColored := false }
    | "if-tty" => .ok { s with isColored := false }
    | _ => .ok { s with isHelp := true }
  | .binary => .ok s
  | .unixOffsets =>
    .ok { s with warnings :=
      s.warnings ++ ["warning: --unix-byte-offsets (-u) is obsolete".toList] }

/-- The files whose texts tell what is passed over. -/
def sieveFiles (options : List (Given GrepOption)) : List Octets :=
  options.filterMap fun given =>
    if given.option = .sieve .excludeFrom then given.value else none

/-- Looks at options one after the other, given the texts of files that they name.  Digits of
one option belong together. -/
def Settings.read (call : Call) (texts : Texts) (options : List (Given GrepOption)) :
    Except Finished Settings :=
  options.foldlM (fun s given => do
    let s ← s.take call texts given
    return if given.option matches .digit _ then s else { s with digits := [] }) {}

namespace Settings

/-- The lines of context in front of a line that counts. -/
def before (s : Settings) : Nat := (s.before?.or s.around?).getD 0

/-- The lines of context behind a line that counts. -/
def after (s : Settings) : Nat := (s.after?.or s.around?).getD 0

/-- Whether context is asked for, even if there is none of it. -/
def hasContext (s : Settings) : Bool := s.before?.isSome || s.after?.isSome || s.around?.isSome

/-- The character at the end of each line. -/
def ending (s : Settings) : Char := if s.endsWithZero then '\x00' else '\n'

end Settings

end SyscallPolicy.Host.Utility.Grep
