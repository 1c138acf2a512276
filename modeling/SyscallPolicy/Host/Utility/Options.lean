import SyscallPolicy.Host.Octets

/-!
# Options of utilities

Options are read in one way for all utilities: letters after a hyphen, which may be joined,
and words after two, which may be cut short as long as they stand for one option only.  They
may stand among the operands, up to a pair of hyphens.

Reading stops at the first thing that is wrong.  The options in front of it are kept, since
what they ask for may come first.
-/

namespace SyscallPolicy.Host.Utility

/-- Whether an option has an argument. -/
inductive Takes where
  | nothing
  | value
  /-- A value that may be missing; it stands in the same argument. -/
  | maybe
  deriving DecidableEq

/-- The options that a utility knows: by letters and by words. -/
structure OptionTable (α : Type) where
  letters : List (Char × Takes × α) := []
  words : List (String × Takes × α) := []

/-- An option that is given. -/
structure Given (α : Type) where
  option : α
  value : Option Octets := none
  /-- Whether it is the first one of its argument. -/
  begins : Bool := true

/-- What is wrong with options. -/
inductive OptionFault where
  | unknownLetter (letter : Char)
  | letterLacksValue (letter : Char)
  | unknownWord (text : Octets)
  | ambiguousWord (text : Octets) (known : List String)
  | wordHasValue (word : String)
  | wordLacksValue (word : String)

/-- What is wrong, in words. -/
def OptionFault.reason : OptionFault → Octets
  | unknownLetter c => "invalid option -- '".toList ++ [c, '\'']
  | letterLacksValue c => "option requires an argument -- '".toList ++ [c, '\'']
  | unknownWord text => "unrecognized option '--".toList ++ text ++ ['\'']
  | ambiguousWord text known =>
    "option '--".toList ++ text ++ "' is ambiguous; possibilities:".toList ++
      known.flatMap fun word => " '--".toList ++ word.toList ++ ['\'']
  | wordHasValue word => "option '--".toList ++ word.toList ++ "' doesn't allow an argument".toList
  | wordLacksValue word => "option '--".toList ++ word.toList ++ "' requires an argument".toList

/-- The options and operands of a call, and what is wrong with them. -/
structure Arguments (α : Type) where
  options : List (Given α) := []
  operands : List Octets := []
  fault? : Option OptionFault := none
  /-- An option whose value comes next, and what is wrong if there is none. -/
  open? : Option (Given α × OptionFault) := none
  /-- Whether there are only operands from here on. -/
  isClosed : Bool := false

namespace Arguments

variable {α : Type} [DecidableEq α]

/-- Whether an option is given. -/
def has (a : Arguments α) (option : α) : Bool :=
  a.options.any fun given => given.option = option

/-- The value of the option that is given last. -/
def value? (a : Arguments α) (option : α) : Option Octets :=
  (a.options.reverse.find? fun given => given.option = option).bind (·.value)

/-- Takes one more option. -/
def give (a : Arguments α) (given : Given α) : Arguments α :=
  { a with options := a.options ++ [given], open? := none }

/-- Finds something wrong. -/
def fail (a : Arguments α) (fault : OptionFault) : Arguments α :=
  { a with fault? := some fault, open? := none }

end Arguments

namespace OptionTable

variable {α : Type} [DecidableEq α]

/-- Reads joined letters. -/
def readLetters (table : OptionTable α) : Bool → Octets → Arguments α → Arguments α
  | _, [], a => a
  | begins, c :: rest, a =>
    match table.letters.lookup c with
    | none => a.fail (.unknownLetter c)
    | some (.nothing, option) => table.readLetters false rest (a.give { option, begins })
    | some (.maybe, option) =>
      a.give { option, begins, value := if rest.isEmpty then none else some rest }
    | some (.value, option) =>
      if rest.isEmpty then { a with open? := some ({ option, begins }, .letterLacksValue c) }
      else a.give { option, begins, value := some rest }

/-- The option that a word stands for, which may be cut short. -/
def word? (table : OptionTable α) (text : Octets) :
    Except OptionFault (String × Takes × α) :=
  let name := text.takeWhile (· != '=')
  match table.words.find? fun known => known.1.toList = name with
  | some known => .ok known
  | none =>
    match table.words.filter fun known => name.isPrefixOf known.1.toList with
    | [] => .error (.unknownWord text)
    | known :: others =>
      if others.all fun other => other.2 = known.2 then .ok known
      else .error (.ambiguousWord text ((known :: others).map (·.1)))

/-- Reads a word, with its value if that stands in the same argument. -/
def readWord (table : OptionTable α) (text : Octets) (a : Arguments α) : Arguments α :=
  match table.word? text with
  | .error fault => a.fail fault
  | .ok (word, takes, option) =>
    let name := text.takeWhile (· != '=')
    let value := if name.length < text.length then some (text.drop (name.length + 1)) else none
    match takes, value with
    | .nothing, some _ => a.fail (.wordHasValue word)
    | .value, none => { a with open? := some ({ option }, .wordLacksValue word) }
    | _, _ => a.give { option, value }

/-- Reads one argument.  Options end with the first operand if nothing else is said. -/
def readArgument (table : OptionTable α) (endsWithOperand : Bool) (a : Arguments α)
    (arg : Octets) : Arguments α :=
  match a.fault?, a.open?, arg with
  | some _, _, _ => a
  | none, some (given, _), _ => a.give { given with value := some arg }
  | none, none, '-' :: c :: rest =>
    if a.isClosed then { a with operands := a.operands ++ [arg] }
    else if c != '-' then table.readLetters true (c :: rest) a
    else if rest.isEmpty then { a with isClosed := true }
    else table.readWord rest a
  | none, none, _ =>
    { a with operands := a.operands ++ [arg], isClosed := a.isClosed || endsWithOperand }

/-- Reads arguments. -/
def read (table : OptionTable α) (endsWithOperand : Bool) (args : List Octets) : Arguments α :=
  let a := args.foldl (table.readArgument endsWithOperand) {}
  match a.open? with
  | some (_, fault) => a.fail fault
  | none => a

end OptionTable

end SyscallPolicy.Host.Utility
