import SyscallPolicy.Host.Utility.Basic
import SyscallPolicy.Host.Utility.Quoting

/-!
# Printing files

Files are printed one after another, and can be dressed up meanwhile: with numbers in front
of lines, with signs for characters that cannot be seen, and with a single blank line for
many.  A line that a file leaves open is gone on with by the next file.
-/

namespace SyscallPolicy.Host.Utility

/-- The options of `cat`. -/
inductive CatOption where
  | all
  | nonblankNumbers
  | marksWithEnds
  | ends
  | numbers
  | squeeze
  | marksWithTabs
  | tabs
  | unbuffered
  | marks
  | help
  | version
  deriving DecidableEq

/-- The table of the options of `cat`. -/
def catOptions : OptionTable CatOption :=
  { letters := [('b', .nothing, .nonblankNumbers), ('e', .nothing, .marksWithEnds),
      ('n', .nothing, .numbers), ('s', .nothing, .squeeze), ('t', .nothing, .marksWithTabs),
      ('u', .nothing, .unbuffered), ('v', .nothing, .marks), ('A', .nothing, .all),
      ('E', .nothing, .ends), ('T', .nothing, .tabs)]
    words := [("number-nonblank", .nothing, .nonblankNumbers), ("number", .nothing, .numbers),
      ("squeeze-blank", .nothing, .squeeze), ("show-nonprinting", .nothing, .marks),
      ("show-ends", .nothing, .ends), ("show-tabs", .nothing, .tabs),
      ("show-all", .nothing, .all), ("help", .nothing, .help),
      ("version", .nothing, .version)] }

/-- How text is dressed up when it is printed. -/
structure Dress where
  numbers : Bool := false
  /-- Whether blank lines have no numbers. -/
  passesBlanks : Bool := false
  squeezes : Bool := false
  marksEnds : Bool := false
  marksTabs : Bool := false
  /-- Whether characters that cannot be seen are marked. -/
  marksHidden : Bool := false
  deriving DecidableEq

/-- The dress that options ask for. -/
def Dress.ofOptions (a : Arguments CatOption) : Dress :=
  let all := a.has .all
  { numbers := a.has .numbers || a.has .nonblankNumbers, passesBlanks := a.has .nonblankNumbers
    squeezes := a.has .squeeze, marksEnds := a.has .ends || a.has .marksWithEnds || all
    marksTabs := a.has .tabs || a.has .marksWithTabs || all
    marksHidden := a.has .marks || a.has .marksWithEnds || a.has .marksWithTabs || all }

/-- How far dressing up has come. -/
structure Dressing where
  /-- The number of the line before. -/
  number : Nat := 0
  /-- How many line feeds are in front, or nothing inside of a line. -/
  feeds? : Option Nat := some 0

/-- The sign for a character below all that can be seen. -/
def caret (c : Char) : Octets := ['^', Char.ofNat (c.toNat + 64)]

/-- A character with a sign in front if it cannot be seen. -/
def Dress.hidden (dress : Dress) (c : Char) : Octets :=
  let low (c : Char) : Octets :=
    if c < ' ' then caret c else if c = '\x7f' then ['^', '?'] else [c]
  if c = '\t' && !dress.marksTabs then [c]
  else if c < '\x80' then low c
  else 'M' :: '-' :: low (Char.ofNat (c.toNat - 128))

/-- A character of a line, given what comes behind it. -/
def Dress.char (dress : Dress) (c : Char) (rest : Octets) : Octets :=
  if dress.marksHidden then dress.hidden c
  else if c = '\t' && dress.marksTabs then ['^', 'I']
  else if c = '\r' && dress.marksEnds && rest.head? = some '\n' then ['^', 'M']
  else [c]

/-- The number in front of the next line. -/
def Dressing.front (d : Dressing) : Octets := Octets.rightAligned 6 (d.number + 1) ++ ['\t']

/-- What a line feed is printed as, and how dressing up goes on. -/
def Dress.feed (dress : Dress) (d : Dressing) : Octets × Dressing :=
  let ending := if dress.marksEnds then ['$', '\n'] else ['\n']
  match d.feeds? with
  | none => (ending, { d with feeds? := some 0 })
  | some feeds =>
    if 1 ≤ feeds && dress.squeezes then ([], { d with feeds? := some 2 })
    else if dress.numbers && !dress.passesBlanks then
      (d.front ++ ending, { number := d.number + 1, feeds? := some (feeds + 1) })
    else (ending, { d with feeds? := some (feeds + 1) })

/-- Dresses up a text, where the last part of what is printed comes first. -/
def Dress.go (dress : Dress) : Octets → Octets → Dressing → Octets × Dressing
  | [], printed, d => (printed.reverse, d)
  | '\n' :: rest, printed, d =>
    let (shown, d) := dress.feed d
    dress.go rest (shown.reverse ++ printed) d
  | c :: rest, printed, d =>
    let begins := d.feeds?.isSome && dress.numbers
    let front := if begins then d.front else []
    let d := { number := if begins then d.number + 1 else d.number, feeds? := none }
    dress.go rest ((dress.char c rest).reverse ++ front.reverse ++ printed) d

/-- Dresses up a text. -/
def Dress.apply (dress : Dress) (text : Octets) (d : Dressing) : Octets × Dressing :=
  if dress = {} then (text, d) else dress.go text [] d

/-- Whether a file cannot be printed since it is where the output goes, and something is left
in it. -/
def Call.isOwnSink (call : Call) (path : Octets) : Bool :=
  let offset := if path = ['-'] then ((call.view.openFile? 0).map (·.offset)).getD 0 else 0
  match call.channelAt path, call.channel? 1 with
  | .ok (.file source), some (.file sink) =>
    source == sink && (call.view.sizeOf? (.file source)).any (offset < ·)
  | _, _ => false

/-- How far printing has come. -/
structure CatRun where
  isFine : Bool := true
  dressing : Dressing := {}

/-- The bytes that are read at once. -/
def catPortion : Nat := 131072

/-- Prints a file. -/
def catFile (call : Call) (dress : Dress) (run : CatRun) (path : Octets) : Act CatRun := do
  let refuse (reason : Octets) : Act CatRun := do
    call.say (quoted path ++ ": ".toList ++ reason)
    return { run with isFine := false }
  let take (dressing : Dressing) (text : Octets) : Act Dressing := do
    let (shown, dressing) := dress.apply text dressing
    call.put 1 shown
    return dressing
  if call.isOwnSink path then refuse "input file is output file".toList
  else
    let print (descriptor : Nat) : Act (Dressing × Option FileFailure) :=
      Call.eachPortion descriptor catPortion (fun _ => false) take Call.greatestPortions
        run.dressing
    match ← call.source path print with
    | .error failure => refuse failure.reason.toList
    | .ok (dressing, some failure) =>
      call.say (quoted path ++ ": ".toList ++ failure.reason.toList)
      return { isFine := false, dressing }
    | .ok (dressing, none) => return { run with dressing }

/-- Prints files. -/
def cat (call : Call) : Act Nat := do
  let a := call.arguments catOptions
  let early? := a.options.find? fun given => given.option = .help || given.option = .version
  match early?, a.fault? with
  | some given, _ =>
    call.tell (.saying 0 (if given.option = .help then "Usage: cat [OPTION]... [FILE]...\n".toList
      else "cat (GNU coreutils) 9.4\n".toList) [])
  | none, some fault => call.tell (call.badUsage 1 fault.reason)
  | none, none =>
    if (call.channel? 1).isNone then
      call.say "standard output: Bad file descriptor".toList
      return 1
    let sources := Call.sources a.operands
    let run ← sources.foldlM (catFile call (Dress.ofOptions a)) {}
    if sources.contains ['-'] && (call.channel? 0).isNone then
      call.say "closing standard input: Bad file descriptor".toList
      return 1
    return if run.isFine then 0 else 1

end SyscallPolicy.Host.Utility
