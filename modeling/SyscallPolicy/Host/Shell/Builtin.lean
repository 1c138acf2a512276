import SyscallPolicy.Host.Glob
import SyscallPolicy.Host.Shell.Rights
import SyscallPolicy.Host.Shell.State
import SyscallPolicy.Host.Utility.Condition
import SyscallPolicy.Host.Utility.Print

/-!
# Commands of a shell

The commands that a shell carries out itself, as functions of their arguments and its
state.  Those that run scripts, and those that deal with other processes, are apart.  What
is wrong with a command makes it fail; whether the script fails with it depends on the
command.
-/

namespace SyscallPolicy.Host.Shell

/-- A text in quotes, as it can be read again: what holds no single quotes stands in them, and
they stand in double ones. -/
def inQuotes (s : Octets) : Octets :=
  let isQuote (c : Char) : Bool := c == '\''
  let shown (run : Octets) : Octets :=
    if run.any isQuote then '"' :: run ++ ['"'] else '\'' :: run ++ ['\'']
  let runs := s.splitBy fun a b => isQuote a == isQuote b
  (if s.head?.all isQuote then shown [] else []) ++ runs.flatMap shown

namespace State

/-- A path without empty parts and dots, from what the working directory is called.  Two
dots take a part away, whatever it leads to.  Exactly two slashes at the front stay. -/
def tidied (hereName path : Octets) : Octets :=
  let isFull := path.head? = some '/'
  let source := if isFull then path else hereName
  let isDouble := ['/', '/'].isPrefixOf source && (source.drop 2).head? != some '/'
  let parts := (if isFull then [] else Octets.cut '/' hereName) ++ Octets.cut '/' path
  let kept := parts.foldl (fun kept part =>
    if part = [] ∨ part = ['.'] then kept
    else if part = ['.', '.'] then kept.dropLast
    else kept ++ [part]) []
  (if isDouble then ['/', '/'] else ['/']) ++ Octets.join ['/'] kept

/-- Where a directory is looked for: where `CDPATH` says, unless its path tells that already.
Each path comes with whether the place is to be printed. -/
def directoriesFor (s : State) (path : Octets) : List (Octets × Bool) :=
  let front := path.takeWhile (· != '/')
  match s.valueOf? "CDPATH".toList with
  | some directories =>
    if path.head? = some '/' || front = ['.'] || front = ['.', '.'] then [(path, false)]
    else
      (Octets.cut ':' directories).map (fun directory =>
        if directory.isEmpty then (path, false) else (directory ++ '/' :: path, true)) ++
        [(path, false)]
  | none => [(path, false)]

/-- Whether a character separates fields, and whether it is a blank that does. -/
def isSeparator (separators : Octets) (m : Char × Bool) : Bool :=
  !m.2 && separators.contains m.1

/-- Whether a character is a blank that separates fields. -/
def isSeparatingBlank (separators : Octets) (m : Char × Bool) : Bool :=
  isSeparator separators m && (m.1 == ' ' || m.1 == '\t' || m.1 == '\n')

/-- What follows the separators at the front: blanks around one other separator at most. -/
def behindSeparator (separators : Octets) (line : Marked) : Marked :=
  let rest := line.dropWhile (isSeparatingBlank separators)
  match rest with
  | m :: more =>
    if isSeparator separators m then more.dropWhile (isSeparatingBlank separators) else rest
  | [] => []

/-- The values of so many variables in a line.  The last one takes what is left, without
blanks at its end, and without the separator if nothing comes behind it. -/
def lineFields (separators : Octets) : Nat → Marked → List Octets
  | 0, _ => []
  | 1, line =>
    let line := line.dropWhile (isSeparatingBlank separators)
    let first := line.takeWhile fun m => !isSeparator separators m
    if (behindSeparator separators (line.drop first.length)).isEmpty then [Marked.text first]
    else [Marked.text (line.reverse.dropWhile (isSeparatingBlank separators)).reverse]
  | n + 1, line =>
    let line := line.dropWhile (isSeparatingBlank separators)
    let first := line.takeWhile fun m => !isSeparator separators m
    let behind := behindSeparator separators (line.drop first.length)
    Marked.text first :: lineFields separators n behind

end State

namespace Deed

/-- Finds that an argument is no number. -/
def badNumber {α : Type} (arg : Octets) : Deed α :=
  fail ("Illegal number: ".toList ++ arg)

/-- The number that an argument is. -/
def number (arg : Octets) : Deed Nat :=
  (Octets.count? arg).elim (badNumber arg) pure

/-- The number that the first argument is, or another one if there is none. -/
def count (args : List Octets) (missing : Nat) : Deed Nat :=
  args.head?.elim (pure missing) number

/-- The options at the front of arguments, and the arguments behind them. -/
def cutOptions (args : List Octets) : Octets × List Octets :=
  let options := args.takeWhile fun arg =>
    arg.head? == some '-' && arg.length > 1 && arg != ['-', '-']
  let rest := args.drop options.length
  (options.flatMap (·.drop 1), if rest.head? = some ['-', '-'] then rest.drop 1 else rest)

/-- The options at the front of arguments, of which these are known, and the arguments behind
them. -/
def options (known : List Char) (args : List Octets) : Deed (Octets × List Octets) := do
  let (options, operands) := cutOptions args
  match options.find? fun c => !known.contains c with
  | some c => fail ("Illegal option -".toList ++ [c])
  | none => return (options, operands)

/-- What a path leads to. -/
def find (path : Octets) : Deed (Except FileFailure Located) := do
  return (← Act.look).trail.find (← get).here (Octets.toText path)

/-! ### Options -/

/-- Sets an option or takes it back.  Without a terminal, processes cannot be put into
groups. -/
def setOption (isOn : Bool) (letter : Char) : Deed Unit := do
  if isOn && letter = 'm' then complain "can't access tty; job control turned off".toList
  else modify fun s => s.withOption isOn letter

/-- The names of the options, with their letters; the last two cannot be called by letters. -/
def optionNames : List (String × Char) :=
  ["errexit", "noglob", "ignoreeof", "interactive", "monitor", "noexec", "stdin", "xtrace",
   "verbose", "vi", "emacs", "noclobber", "allexport", "notify", "nounset", "privileged",
   "nolog", "debug"].zip (State.optionLetters ++ ['L', 'D'])

/-- Lists the options, as a table or as commands that set them. -/
def showOptions (isOn : Bool) : Deed Unit := do
  let s ← get
  answer 0 <|
    if isOn then
      "Current option settings\n".toList ++ optionNames.flatMap fun (name, letter) =>
        name.toList ++ List.replicate (16 - name.length) ' ' ++
          (if s.has letter then "on\n".toList else "off\n".toList)
    else
      optionNames.flatMap fun (name, letter) =>
        (if s.has letter then "set -o ".toList else "set +o ".toList) ++ name.toList ++ ['\n']

/-- What reading options comes to. -/
structure OptionsRead where
  /-- The arguments behind the options. -/
  left : List Octets
  /-- Whether a script is among the arguments. -/
  hasCommand : Bool := false
  /-- Whether the options ended with a pair of hyphens. -/
  isClosed : Bool := false

/-- Reads letters of options, given the arguments behind them. -/
def readLetters (isOn isCall : Bool) : Octets → OptionsRead → Deed OptionsRead
  | [], found => return found
  | c :: rest, found => do
    if isCall && c = 'c' then readLetters isOn isCall rest { found with hasCommand := true }
    else if isCall && c = 'l' then readLetters isOn isCall rest found
    else if c = 'o' then
      match found.left with
      | [] =>
        showOptions isOn
        readLetters isOn isCall rest found
      | name :: left =>
        match optionNames.lookup (String.ofList name) with
        | some letter => setOption isOn letter
        | none => fail ("Illegal option -o ".toList ++ name)
        readLetters isOn isCall rest { found with left }
    else if State.optionLetters.contains c then
      setOption isOn c
      readLetters isOn isCall rest found
    else fail ("Illegal option -".toList ++ [c])

/-- Reads options at the front of arguments, of a call of the shell or of `set`. -/
def readOptions (isCall : Bool) : Nat → OptionsRead → Deed OptionsRead
  | 0, found => return found
  | fuel + 1, found => do
    match found.left with
    | ['-'] :: left =>
      if !isCall then modify fun s => (s.withOption false 'x').withOption false 'v'
      return { found with left }
    | ['-', '-'] :: left => return { found with left, isClosed := true }
    | ('-' :: letters) :: left =>
      readOptions isCall fuel (← readLetters true isCall letters { found with left })
    | ('+' :: letters) :: left =>
      readOptions isCall fuel (← readLetters false isCall letters { found with left })
    | _ => return found

/-- Sets options and parameters, or lists the variables. -/
def set_ : Builtin := fun args => do
  if args.isEmpty then
    let named := (← get).bindings.filterMap fun (name, b) =>
      b.value?.map fun value => name ++ '=' :: inQuotes value ++ ['\n']
    answer 0 (Octets.sort named).flatten
  else
    setStatus 0
    let found ← readOptions false (args.length + 1) { left := args }
    if !found.left.isEmpty || found.isClosed then
      modify fun s => { s with parameters := found.left, argument := 1, letter := 0 }

/-! ### Variables -/

/-- Declares variables: each argument is a name, maybe with a value. -/
def declare (change : Binding → Binding) : Builtin
  | [] => return
  | arg :: rest => do
    let name := arg.takeWhile (· != '=')
    if !isName name then fail (arg ++ ": bad variable name".toList)
    if name.length < arg.length then assign name (arg.drop (name.length + 1))
    modify fun s =>
      s.rebind name (some (change ((s.binding? name).getD { value? := none })))
    declare change rest

/-- Declares variables in a way, or lists those that are declared so. -/
def declaring (word : String) (isSo : Binding → Bool) (change : Binding → Binding) : Builtin :=
  fun args => do
    let (options, names) ← options ['p'] args
    if names.isEmpty || !options.isEmpty then
      let rows := ((← get).bindings.filter fun b => isSo b.2).map fun (name, b) =>
        word.toList ++ ' ' :: name ++
          (b.value?.elim [] fun value => '=' :: inQuotes value) ++ ['\n']
      answer 0 (Octets.sort rows).flatten
    else
      setStatus 0
      declare change names

/-- Hands variables on to programs. -/
def export_ : Builtin :=
  declaring "export" (·.isExported) fun b => { b with isExported := true }

/-- Keeps variables from being changed. -/
def readonly_ : Builtin :=
  declaring "readonly" (·.isReadonly) fun b => { b with isReadonly := true }

/-- Makes variables that last as long as a function; a hyphen stands for the options. -/
def local_ : Builtin := fun args => do
  if (← get).frames.isEmpty then fail "not in a function".toList
  let names := args.map fun arg => arg.takeWhile (· != '=')
  modify fun s => names.foldl State.remember s
  setStatus 0
  declare (fun b => b) (args.filter (· != ['-']))

/-- Forgets variables or functions. -/
def unset : Builtin := fun args => do
  let (options, names) ← options ['f', 'v'] args
  setStatus 0
  for name in names do
    if options.getLast? == some 'f' then
      modify fun s => { s with functions := s.functions.filter fun f => f.1 != name }
    else
      if !isName name then fail (name ++ ": bad variable name".toList)
      if (← get).isFixed name then fail (name ++ ": is read only".toList)
      modify fun s => s.rebind name none

/-- Drops parameters at the front. -/
def shift : Builtin := fun args => do
  let n ← count args 1
  if (← get).parameters.length < n then fail "can't shift that many".toList
  modify fun s => { s with parameters := s.parameters.drop n, status := 0 }

/-! ### The way a script goes -/

/-- Ends the shell. -/
def exit : Builtin := fun args => do
  let s ← get
  setStatus (← count args (s.saved.getD s.status))
  throw .exiting

/-- Ends a function or a file of commands. -/
def return_ : Builtin := fun args => do
  setStatus (← count args (← get).status)
  throw .returning

/-- Leaves loops in some way. -/
def leaving (jump : Nat → Jump) : Builtin := fun args => do
  let n ← count args 1
  if n = 0 then badNumber (args.headD [])
  setStatus 0
  let loops := (← get).loops
  if 0 < loops then throw (jump (min n loops))

/-! ### Places -/

/-- Whether the working directory is called by its place, and not by how it was reached. -/
def isPhysical (options : Octets) : Bool := options.getLast? = some 'P'

/-- Goes into a directory, if there is one. -/
def enterDirectory (isPhysical : Bool) (path : Octets) : Deed Bool := do
  let s ← get
  let path := if isPhysical then path else State.tidied s.hereName path
  match ← find path with
  | .ok found =>
    if Trail.isDirectory found.node then
      let hereName := if isPhysical then pathOf found.place else path
      set { s with here := found.place, hereName }
      assignExported "OLDPWD".toList s.hereName
      assignExported "PWD".toList hereName
      return true
    else return false
  | .error _ => return false

/-- Goes into the first of some directories that there is; each path comes with whether the
place is to be printed. -/
def enterFirst (isPhysical : Bool) : List (Octets × Bool) → Deed (Option Bool)
  | [] => return none
  | (path, isShown) :: rest => do
    if ← enterDirectory isPhysical path then return some isShown
    else enterFirst isPhysical rest

/-- Changes the working directory. -/
def changeDirectory : Builtin := fun args => do
  let (options, operands) ← options ['L', 'P'] args
  let s ← get
  let isBack := operands.head? = some ['-']
  let path := ((match operands with
    | [] => s.valueOf? "HOME".toList
    | ['-'] :: _ => s.valueOf? "OLDPWD".toList
    | path :: _ => some path) : Option Octets).getD []
  let candidates := s.directoriesFor (if path.isEmpty then ['.'] else path)
  match ← enterFirst (isPhysical options) candidates with
  | some isShown =>
    let hereName := (← get).hereName
    answer 0 (if isBack || isShown then hereName ++ ['\n'] else [])
  | none => fail ("can't cd to ".toList ++ path)

/-- Prints the working directory. -/
def printDirectory : Builtin := fun args => do
  let (options, _) ← options ['L', 'P'] args
  let s ← get
  answer 0 ((if isPhysical options then pathOf s.here else s.hereName) ++ ['\n'])

/-- Shows or changes which rights new files do not get. -/
def mask_ : Builtin := fun args => do
  let (options, operands) ← options ['S'] args
  let s ← get
  match operands with
  | [] =>
    let shown := if options.isEmpty then Rights.digits s.mask else Rights.clauses s.mask
    answer 0 (shown ++ ['\n'])
  | arg :: _ =>
    if arg.head?.any Char.isDigit then
      match Octets.readDigits 8 arg with
      | some (mask, []) => set { s with mask := mask % 512, status := 0 }
      | _ => badNumber arg
    else
      match Rights.read? s.mask arg with
      | some mask => set { s with mask, status := 0 }
      | none => fail ("Illegal mode: ".toList ++ arg)

/-- The letter of the limit that counts how long a process works. -/
def workLetter : Char := 't'

/-- Shows or changes the limits of the process. -/
def limit : Builtin := fun args => do
  let (options, operands) ←
    options ('H' :: 'S' :: 'a' :: Resource.standard.map (·.letter)) args
  let s ← get
  let which := options.filter fun c => c = 'H' || c = 'S'
  let limits : Limits :=
    match which.getLast? with
    | some 'H' => { soft := false }
    | some _ => { hard := false }
    | none => {}
  let letter := (options.filter fun c => !("HSa".contains c)).getLast?.getD 'f'
  match s.limits.find? fun r => r.letter = letter, operands with
  | none, _ => setStatus 0
  | some r, [] =>
    answer 0 (if options.contains 'a' then Resource.table limits s.limits
      else r.shown limits ++ ['\n'])
  | some r, operand :: others =>
    if options.contains 'a' || !others.isEmpty then fail "too many arguments".toList
    match Resource.limit? r.unit operand with
    | none => fail "bad number".toList
    | some limit =>
      match r.limited limits limit with
      | .error reason => fail ("error setting limit (".toList ++ reason.toList ++ [')'])
      | .ok changed =>
        let limits := s.limits.map fun r => if r.letter = letter then changed else r
        set { s with limits, status := 0 }
        if letter = workLetter then Act.bound (changed.soft.map (· * 1000000000))

/-! ### Printing and reading -/

/-- Prints arguments. -/
def echo : Builtin := fun args => answer 0 (Utility.echoed args)

/-- Runs a utility that is a part of the shell. -/
def utility (run : Utility.Call → Utility.Finished) (name : String) : Builtin := fun args => do
  let s ← get
  let view ← Act.look
  let finished := run { name := name.toList, args, here := s.here, table := s.descriptors, view }
  let front := s.name ++ ": ".toList ++ Octets.numeral s.line ++ ": ".toList
  setStatus finished.status
  for (outlet, text) in finished.prints do
    match outlet with
    | .complaints => say ((Octets.lines text).flatMap fun line => front ++ line ++ ['\n'])
    | .output => answer finished.status text

/-- Reads a line byte by byte: its characters, with whether they were escaped, and whether its
end was seen.  A backslash takes the meaning from the character behind it, and joins lines,
unless it stands for itself.  A signal that is noticed comes between. -/
def readLine (isRaw : Bool) : Nat → (isEscaped : Bool) → Marked → Deed (Marked × Bool)
  | 0, _, _ => expire
  | fuel + 1, isEscaped, taken => do
    match ← Act.read 0 1 false with
    | .ok [c] =>
      if c = '\x00' then readLine isRaw fuel isEscaped taken
      else if isEscaped then
        readLine isRaw fuel false (if c = '\n' then taken else (c, true) :: taken)
      else if c = '\\' && !isRaw then readLine isRaw fuel true taken
      else if c = '\n' then return (taken.reverse, true)
      else readLine isRaw fuel false ((c, false) :: taken)
    | _ => return (taken.reverse, false)

/-- Reads a line into variables. -/
def read : Builtin := fun args => do
  let table : Utility.OptionTable Char :=
    { letters := [('r', .nothing, 'r'), ('p', .value, 'p')] }
  let a := table.read true args
  match a.fault? with
  | some (.unknownLetter c) => fail ("Illegal option -".toList ++ [c])
  | some _ => fail "No arg for -p option".toList
  | none => pure ()
  if a.operands.isEmpty then fail "arg count".toList
  let (line, isEnded) ← readLine (a.has 'r') greatestLength false []
  let values := State.lineFields (← get).separators a.operands.length line
  for (name, value) in a.operands.zip values do
    if !isName name then fail (name ++ ": bad variable name".toList)
    assign name value
  setStatus (if isEnded then 0 else 1)

/-! ### Options of scripts -/

/-- Remembers the number of the next argument, at whose front the next option is. -/
def setIndex (index : Nat) : Deed Unit := do
  modify fun s => { s with letter := 0 }
  assign "OPTIND".toList (Octets.numeral index)

/-- Takes the next option out of arguments, for a script that has options. -/
def nextOption : Builtin := fun args => do
  match args with
  | known :: name :: own =>
    let s ← get
    let args := if own.isEmpty then s.parameters else own
    let isQuiet := known.head? == some ':'
    let known := if isQuiet then known.drop 1 else known
    let index := s.argument
    let value := "OPTARG".toList
    let stop (index : Nat) : Deed Unit := do
      setIndex index
      assign name ['?']
      setStatus 1
    match args[index - 1]? with
    | none => stop index
    | some arg =>
      if arg = ['-', '-'] then stop (index + 1)
      else if arg.head? != some '-' || arg.length < 2 then stop index
      else
        let place := max s.letter 1
        match arg[place]? with
        | none => stop index
        | some c =>
          let isLast := place + 1 == arg.length
          let goOn : Deed Unit := do
            if isLast then setIndex (index + 1) else modify fun s => { s with letter := place + 1 }
          let takesValue := ((known.dropWhile (· != c)).drop 1).head? == some ':'
          if c = ':' || !known.contains c then
            goOn
            assign name ['?']
            if isQuiet then assign value [c]
            else
              complain ("Illegal option -".toList ++ [c])
              modify fun s => s.rebind value none
          else if !takesValue then
            goOn
            assign name [c]
            assign value []
          else if !isLast then
            setIndex (index + 1)
            assign name [c]
            assign value (arg.drop (place + 1))
          else
            match args[index]? with
            | some found =>
              setIndex (index + 2)
              assign name [c]
              assign value found
            | none =>
              setIndex (index + 1)
              if isQuiet then
                assign name [':']
                assign value [c]
              else
                assign name ['?']
                modify fun s => s.rebind value none
                complain ("No arg for -".toList ++ [c])
          setStatus 0
  | _ => fail "Usage: getopts optstring var [arg...]".toList

/-! ### Aliases -/

/-- Makes other words for commands, or shows them. -/
def alias_ : Builtin := fun args => do
  let row (name value : Octets) : Octets := name ++ '=' :: inQuotes value ++ ['\n']
  if args.isEmpty then answer 0 ((← get).aliases.flatMap fun (name, value) => row name value)
  else
    setStatus 0
    for arg in args do
      let s ← get
      let name := arg.takeWhile (· != '=')
      if name.length < arg.length then
        set { s with aliases := (name, arg.drop (name.length + 1)) ::
            s.aliases.filter fun a => a.1 != name }
      else
        match s.aliases.lookup name with
        | some value => answer s.status (row name value)
        | none =>
          say ("alias: ".toList ++ name ++ " not found\n".toList)
          setStatus 1

/-- Forgets other words for commands. -/
def unalias : Builtin := fun args => do
  let (options, names) ← options ['a'] args
  setStatus 0
  if !options.isEmpty then modify fun s => { s with aliases := [] }
  else
    for name in names do
      let s ← get
      if (s.aliases.lookup name).isSome then
        set { s with aliases := s.aliases.filter fun a => a.1 != name }
      else
        say ("unalias: ".toList ++ name ++ " not found\n".toList)
        setStatus 1

end Deed

end SyscallPolicy.Host.Shell
