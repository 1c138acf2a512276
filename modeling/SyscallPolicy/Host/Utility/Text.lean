import SyscallPolicy.Host.Utility.Basic
import SyscallPolicy.Host.Utility.Quoting

/-!
# Utilities for text

Taking the first or last lines of files, counting from one number to another, and cutting
paths.
-/

namespace SyscallPolicy.Host.Utility

/-- The lines of a text with their line feeds. -/
def fullLines (text : Octets) : List Octets :=
  match (Octets.cut '\n' text).reverse with
  | [] => []
  | last :: rest =>
    (rest.reverse.map (· ++ ['\n'])) ++ (if last.isEmpty then [] else [last])

/-- An amount of lines or bytes, from the front or from the back. -/
structure Amount where
  inBytes : Bool
  sign : Option Char
  number : Nat

/-- Reads an amount. -/
def Amount.read? (inBytes : Bool) (text : Octets) : Option Amount :=
  let sign := match text with
    | '-' :: _ => some '-'
    | '+' :: _ => some '+'
    | _ => none
  match Octets.readDigits 10 (if sign.isSome then text.drop 1 else text) with
  | some (number, []) => some ⟨inBytes, sign, number⟩
  | _ => none

/-- The pieces of a text that an amount counts. -/
def Amount.pieces (amount : Amount) (text : Octets) : List Octets :=
  if amount.inBytes then text.map fun c => [c] else fullLines text

/-- The first part of a text; a minus sign leaves the amount away from its end. -/
def Amount.first (amount : Amount) (text : Octets) : Octets :=
  let pieces := amount.pieces text
  (pieces.take (if amount.sign = some '-' then pieces.length - amount.number
    else amount.number)).flatten

/-- The last part of a text; a plus sign tells with what it begins. -/
def Amount.last (amount : Amount) (text : Octets) : Octets :=
  let pieces := amount.pieces text
  (pieces.drop (if amount.sign = some '+' then amount.number - 1
    else pieces.length - amount.number)).flatten

/-- Arguments in which a hyphen with a number at the front is an amount of lines. -/
def withAmount (args : List Octets) : List Octets :=
  match args with
  | ('-' :: c :: rest) :: more =>
    (if c.isDigit then '-' :: 'n' :: c :: rest else '-' :: c :: rest) :: more
  | _ => args

/-- How much of a text is read to print its first part, if that can be known. -/
def Amount.readFirst? (amount : Amount) (text : Octets) : Option Nat :=
  let pieces := amount.pieces text
  if amount.sign = some '-' || pieces.length < amount.number then none
  else some (pieces.take amount.number).flatten.length

/-- Which end of files is printed. -/
inductive FileEnd where
  | front
  | back
  deriving DecidableEq

/-- Reads as much of a file as is needed for its first part: what was read, and why nothing more
can be.  A file that can be read again later is left right behind that part. -/
def readFront (call : Call) (amount : Amount) (descriptor : Nat) :
    Act (Octets × Option FileFailure) := do
  let isOver (text : Octets) : Bool := (amount.readFirst? text).isSome
  let take (text more : Octets) : Act Octets := return text ++ more
  if isOver [] then return ([], none)
  let (text, failure?) ← Call.eachPortion descriptor 1024 isOver take Call.greatestPortions []
  match amount.readFirst? text, call.view.openFile? descriptor with
  | some size, some { channel := .file _, offset, .. } => Act.seek descriptor (offset + size)
  | _, _ => pure ()
  return (text, failure?)

/-- Prints one end of files. -/
def excerpt (fileEnd : FileEnd) (call : Call) : Act Nat := do
  let table : OptionTable Char :=
    { letters := [('q', .nothing, 'q'), ('v', .nothing, 'v'), ('n', .value, 'n'),
        ('c', .value, 'c')]
      words := [("lines", .value, 'n'), ("bytes", .value, 'c'), ("quiet", .nothing, 'q'),
        ("silent", .nothing, 'q'), ("verbose", .nothing, 'v'), ("help", .nothing, 'h'),
        ("version", .nothing, 'V')] }
  let a := { call with args := withAmount call.args }.arguments table
  match a.fault? with
  | some fault => call.tell (call.badUsage 1 fault.reason)
  | none =>
    if a.has 'h' || a.has 'V' then return 0
    else
      let isAmount (given : Given Char) : Bool := given.option == 'n' || given.option == 'c'
      let amount? := match a.options.reverse.find? isAmount with
        | some given => Amount.read? (given.option == 'c') (given.value.getD [])
        | none => some { inBytes := false, sign := none, number := 10 }
      match amount? with
      | none => call.tell (call.badUsage 1 "invalid number".toList)
      | some amount =>
        let hasTitles := (a.operands.length > 1 && !a.has 'q') || a.has 'v'
        let step (status : Nat) (source : Octets × Nat) : Act Nat := do
          let (path, i) := source
          let read (descriptor : Nat) : Act (Octets × Option FileFailure) :=
            if fileEnd = .front then readFront call amount descriptor
            else Call.readAll descriptor 8192
          match ← call.source path read with
          | .error failure =>
            let _ ← Act.write 2 (call.pathComplaint path failure)
            return 1
          | .ok (text, failure?) =>
            let feed := if i = 0 then [] else ['\n']
            let title := if hasTitles then feed ++ "==> ".toList ++ path ++ " <==\n".toList else []
            let part := if fileEnd = .front then amount.first text else amount.last text
            call.put 1 (title ++ part)
            match failure? with
            | none => return status
            | some failure =>
              let _ ← Act.write 2 (call.pathComplaint path failure)
              return 1
        (Call.sources a.operands).zipIdx.foldlM step 0

/-- Prints the first lines. -/
def head (call : Call) : Act Nat := excerpt .front call

/-- Prints the last lines. -/
def tail (call : Call) : Act Nat := excerpt .back call

/-- The numbers from one to another in steps. -/
def progression (start step stop : Int) : List Int :=
  if step = 0 then []
  else
    let count := (stop - start) / step + 1
    (List.range count.toNat).map fun (i : Nat) => start + step * (i : Int)

/-- Prints numbers in order. -/
def counting (call : Call) : Finished :=
  let print (start step stop : Octets) : Finished :=
    match Octets.integer? start, Octets.integer? step, Octets.integer? stop with
    | some start, some step, some stop =>
      .saying (if step = 0 then 1 else 0)
        ((progression start step stop).flatMap fun n => Octets.signedNumeral n ++ ['\n']) []
    | _, _, _ => call.badUsage 1 "invalid floating point argument".toList
  match call.args with
  | [stop] => print ['1'] ['1'] stop
  | [start, stop] => print start ['1'] stop
  | [start, step, stop] => print start step stop
  | _ => call.badUsage 1 "missing operand".toList

/-- The text without slashes at its end, unless there is nothing else. -/
def withoutSlashes (path : Octets) : Octets :=
  let found := (path.reverse.dropWhile (· == '/')).reverse
  if found.isEmpty && !path.isEmpty then ['/'] else found

/-- The last part of a path. -/
def lastPart (path : Octets) : Octets :=
  let path := withoutSlashes path
  if path = ['/'] then path else (path.reverse.takeWhile (· != '/')).reverse

/-- Prints the last part of a path, without a given ending. -/
def baseName (call : Call) : Finished :=
  match call.args with
  | [path] => .saying 0 (lastPart path ++ ['\n']) []
  | [path, ending] =>
    let part := lastPart path
    let shown := if ending.isSuffixOf part && ending != part then
      part.take (part.length - ending.length) else part
    .saying 0 (shown ++ ['\n']) []
  | _ => call.badUsage 1 "missing operand".toList

/-- Prints what is in front of the last part of a path. -/
def directoryName (call : Call) : Finished :=
  if call.args.isEmpty then call.badUsage 1 "missing operand".toList
  else
    .saying 0 (call.args.flatMap fun path =>
      let front := (withoutSlashes path).reverse.dropWhile (· != '/')
      let shown :=
        if withoutSlashes path = ['/'] then ['/']
        else if front.isEmpty then ['.']
        else withoutSlashes front.reverse
      shown ++ ['\n']) []

end SyscallPolicy.Host.Utility
