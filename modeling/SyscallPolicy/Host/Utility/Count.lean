import SyscallPolicy.Host.Utility.Cat

/-!
# Counting in files

Lines, words, characters and bytes of files, and the length of their longest lines, in
columns that are as wide as the size of all files together.  The names of the files can
stand in a file, each with a zero at its end.
-/

namespace SyscallPolicy.Host.Utility

/-- What is counted in a text. -/
inductive Measure where
  | lines
  | words
  | chars
  | bytes
  | longest
  deriving DecidableEq

/-- The options of `wc`. -/
inductive CountOption where
  | measure (measure : Measure)
  | names
  | total
  | debug
  | help
  | version
  deriving DecidableEq

/-- The table of the options of `wc`. -/
def countOptions : OptionTable CountOption :=
  { letters := [('c', .nothing, .measure .bytes), ('l', .nothing, .measure .lines),
      ('L', .nothing, .measure .longest), ('m', .nothing, .measure .chars),
      ('w', .nothing, .measure .words)]
    words := [("bytes", .nothing, .measure .bytes), ("chars", .nothing, .measure .chars),
      ("lines", .nothing, .measure .lines), ("words", .nothing, .measure .words),
      ("debug", .nothing, .debug), ("files0-from", .value, .names),
      ("max-line-length", .nothing, .measure .longest), ("total", .value, .total),
      ("help", .nothing, .help), ("version", .nothing, .version)] }

/-- How far counting has come. -/
structure Counting where
  lines : Nat := 0
  words : Nat := 0
  bytes : Nat := 0
  longest : Nat := 0
  /-- The columns of the line so far. -/
  column : Nat := 0
  /-- Whether a word has begun. -/
  isInWord : Bool := false

/-- Ends a word. -/
def Counting.endWord (n : Counting) : Counting :=
  { n with words := n.words + (if n.isInWord then 1 else 0), isInWord := false }

/-- Ends a line as it is seen. -/
def Counting.endLine (n : Counting) : Counting :=
  { n.endWord with longest := max n.longest n.column, column := 0 }

/-- Counts one more character.  Only characters that can be seen begin a word and take up
columns; a tab goes on to the next multiple of eight. -/
def Counting.add (n : Counting) (c : Char) : Counting :=
  let n := { n with bytes := n.bytes + 1 }
  if c = '\n' then { n.endLine with lines := n.lines + 1 }
  else if c = '\r' || c = '\x0c' then n.endLine
  else if c = '\t' then { n.endWord with column := n.column + 8 - n.column % 8 }
  else if c = ' ' then { n.endWord with column := n.column + 1 }
  else if c = '\x0b' then n.endWord
  else if isSeen c then { n with column := n.column + 1, isInWord := true }
  else n

/-- Counts in a text. -/
def Counting.of (text : Octets) : Counting :=
  (text.foldl Counting.add {}).endLine

/-- The count of one measure. -/
def Counting.at (n : Counting) : Measure → Nat
  | .lines => n.lines
  | .words => n.words
  | .chars => n.bytes
  | .bytes => n.bytes
  | .longest => n.longest

/-- The counts of two texts in sum; only the longest line is not added up. -/
def Counting.plus (m n : Counting) : Counting :=
  { lines := m.lines + n.lines, words := m.words + n.words, bytes := m.bytes + n.bytes
    longest := max m.longest n.longest }

/-- The measures that options ask for, in the order in which they are printed. -/
def Measure.chosen (a : Arguments CountOption) : List Measure :=
  let asked := [Measure.lines, .words, .chars, .bytes, .longest].filter fun measure =>
    a.has (.measure measure)
  if asked.isEmpty then [.lines, .words, .bytes] else asked

/-- When a row of sums is printed. -/
inductive Totals where
  /-- If there are several files. -/
  | auto
  | always
  /-- And nothing else. -/
  | only
  | never
  deriving DecidableEq

/-- The words for when a row of sums is printed. -/
def Totals.names : List (String × Totals) :=
  [("auto", .auto), ("always", .always), ("only", .only), ("never", .never)]

/-- When sums are asked for; a word can be cut short.  Otherwise, what is wrong with it. -/
def Totals.read (word : Octets) : Except String Totals :=
  match names.find? fun known => known.1.toList = word with
  | some known => .ok known.2
  | none =>
    match names.filter fun known => word.isPrefixOf known.1.toList with
    | [] => .error "invalid"
    | [known] => .ok known.2
    | _ => .error "ambiguous"

/-- The complaint about a word that is not among those that can be given. -/
def badWord (call : Call) (problem : String) (option : String) (word : Octets)
    (known : List String) : Octets :=
  call.complaint (problem.toList ++ " argument ".toList ++ inPlainQuotes word ++
      " for '--".toList ++ option.toList ++ ['\'']) ++
    "Valid arguments are:\n".toList ++
    known.flatMap fun word => "  - '".toList ++ word.toList ++ ['\'', '\n']

/-- The size of what a path leads to, where it has one, or nothing if there is nothing. -/
def Call.sizeOf? (call : Call) (path : Octets) : Option (Option Nat) :=
  (call.channelAt path).toOption.map call.view.sizeOf?

/-- The width of the columns for files that are known in advance. -/
def countWidth (call : Call) (paths : List Octets) (measures : Nat) : Nat :=
  if measures = 1 && paths.length ≤ 1 then 1
  else
    let sizes := paths.filterMap call.sizeOf?
    let total := sizes.foldl (fun n size => n + size.getD 0) 0
    max (if sizes.any Option.isNone then 7 else 1) (Octets.numeral total).length

/-- The names in a text that end with zeros. -/
def namesIn (text : Octets) : List Octets :=
  match (Octets.cut '\x00' text).reverse with
  | [] :: rest => rest.reverse
  | found => found.reverse

/-- What is printed for files, and how. -/
structure CountPlan where
  measures : List Measure
  totals : Totals
  width : Nat
  files : List (Except Octets Octets)
  /-- Whether the names of files are printed. -/
  hasNames : Bool := true
  /-- What the standard input is called in complaints. -/
  inputName : Octets := ['-']

/-- A row of counts, with a name if it has one. -/
def CountPlan.row (plan : CountPlan) (n : Counting) (name? : Option Octets) : Octets :=
  let counts := plan.measures.map fun measure => Octets.rightAligned plan.width (n.at measure)
  Octets.join [' '] counts ++ (name?.elim [] fun name => ' ' :: name) ++ ['\n']

/-- How far counting in files has come. -/
structure CountRun where
  total : Counting := {}
  isFine : Bool := true
  /-- Why rows could not be written. -/
  unwritten? : Option FileFailure := none

/-- Prints a row. -/
def CountRun.print (run : CountRun) (row : Octets) : Act CountRun := do
  match ← Act.write 1 row with
  | .ok () => return run
  | .error failure => return { run with unwritten? := some failure }

/-- Prints the counts of a file and adds them up. -/
def CountRun.add (run : CountRun) (plan : CountPlan) (path : Octets) (n : Counting) :
    Act CountRun := do
  let run := { run with total := run.total.plus n }
  if plan.totals = .only then return run
  else run.print (plan.row n (if plan.hasNames then some path else none))

/-- The bytes that are read at once. -/
def countPortion : Nat := 16384

/-- Counts in one file, or complains about a name that makes no sense.  What can be opened but
not read counts as far as it was read. -/
def CountRun.take (plan : CountPlan) (call : Call) (run : CountRun)
    (file : Except Octets Octets) : Act CountRun := do
  match file with
  | .error reason =>
    call.say reason
    return { run with isFine := false }
  | .ok path =>
    let name := if path = ['-'] then plan.inputName else quoted path
    let complain (failure : FileFailure) : Act Unit :=
      call.say (name ++ ": ".toList ++ failure.reason.toList)
    let count (descriptor : Nat) : Act (Counting × Option FileFailure) :=
      Call.eachPortion descriptor countPortion (fun _ => false)
        (fun n text => return text.foldl Counting.add n) Call.greatestPortions {}
    match ← call.source path count with
    | .error failure =>
      complain failure
      return { run with isFine := false }
    | .ok (n, some failure) =>
      complain failure
      { run with isFine := false }.add plan path n.endLine
    | .ok (n, none) => run.add plan path n.endLine

/-- Whether there is a row of sums. -/
def CountPlan.isTotalled (plan : CountPlan) : Bool :=
  match plan.totals with
  | .auto => plan.files.length > 1
  | .always => true
  | .only => true
  | .never => false

/-- Counts in files. -/
def CountPlan.run (plan : CountPlan) (call : Call) : Act Nat := do
  let run ← plan.files.foldlM (CountRun.take plan call) {}
  let name? := if plan.totals = .only then none else some "total".toList
  let run ← if plan.isTotalled then run.print (plan.row run.total name?) else pure run
  let readsInput := plan.files.any fun file => file.toOption = some ['-']
  if readsInput && (call.channel? 0).isNone then call.say "-: Bad file descriptor".toList
  if let some failure := run.unwritten? then call.sayUnwritten failure false
  return if run.isFine && run.unwritten?.isNone then 0 else 1

/-- The names to count in that a text holds, which was read from a file. -/
def namedFiles (source text : Octets) : List (Except Octets Octets) :=
  (namesIn text).zipIdx.map fun (name, i) =>
    if name.isEmpty then
      .error (quoted source ++ ':' :: Octets.numeral (i + 1) ++
        ": invalid zero-length file name".toList)
    else if source = ['-'] && name = ['-'] then
      .error "when reading file names from stdin, no file name of '-' allowed".toList
    else .ok name

/-- Counts in the files whose names are in a file. -/
def countNamed (call : Call) (source : Octets) (plan : CountPlan) : Act Nat := do
  match ← call.source source fun descriptor => Call.readAll descriptor countPortion with
  | .error failure =>
    call.say ("cannot open ".toList ++ alwaysQuoted source ++ " for reading: ".toList ++
      failure.reason.toList)
    return 1
  | .ok (_, some failure) =>
    call.say (quoted source ++ ": read error: ".toList ++ failure.reason.toList)
    return 1
  | .ok (text, none) =>
    let names := namesIn text
    let isListed := (call.sizeOf? source).any Option.isSome && !names.isEmpty
    let width := if isListed && plan.totals != .only then
        countWidth call names plan.measures.length
      else 1
    { plan with files := namedFiles source text, width }.run call

/-- What options ask for before anything is counted. -/
def earlyCount? (call : Call) (given : Given CountOption) : Option Finished :=
  match given.option, given.value with
  | .help, _ => some (.saying 0 "Usage: wc [OPTION]... [FILE]...\n".toList [])
  | .version, _ => some (.saying 0 "wc (GNU coreutils) 9.4\n".toList [])
  | .total, some word =>
    match Totals.read word with
    | .ok _ => none
    | .error problem =>
      some (.saying 1 []
        (badWord call problem "total" word (Totals.names.map (·.1)) ++ call.hint))
  | _, _ => none

/-- Counts in files as options ask for. -/
def wordCount (call : Call) : Act Nat := do
  let a := call.arguments countOptions
  match a.options.findSome? (earlyCount? call), a.fault? with
  | some finished, _ => call.tell finished
  | none, some fault => call.tell (call.badUsage 1 fault.reason)
  | none, none =>
    let measures := Measure.chosen a
    let totals := ((a.value? .total).bind fun word => (Totals.read word).toOption).getD .auto
    match a.value? .names, a.operands with
    | some _, operand :: _ =>
      call.tell (.saying 1 [] (call.complaint ("extra operand ".toList ++ alwaysQuoted operand) ++
        "file operands cannot be combined with --files0-from\n".toList ++ call.hint))
    | some source, [] => countNamed call source { measures, totals, width := 1, files := [] }
    | none, operands =>
      let width := if totals = .only then 1
        else countWidth call (Call.sources operands) measures.length
      let files := (Call.sources operands).map fun path =>
        if path.isEmpty then .error "invalid zero-length file name".toList else .ok path
      let inputName := if operands.isEmpty then "'standard input'".toList else ['-']
      { measures, totals, width, files, hasNames := !operands.isEmpty, inputName
        : CountPlan }.run call

end SyscallPolicy.Host.Utility
