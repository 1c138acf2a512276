import SyscallPolicy.Host.Utility.Decimal
import SyscallPolicy.Host.Utility.Pause

/-!
# Printing arguments

Two ways to print: arguments as they are, with spaces between them, and arguments in the
places of a format, which is used again as long as arguments are left.  A backslash
begins an escape in either.
-/

namespace SyscallPolicy.Host.Utility

/-- A part of a text in which escapes were read; an escape can end all printing. -/
structure Printed where
  text : Octets
  endsHere : Bool := false

/-- What is in front of another part. -/
def Printed.then_ (first second : Printed) : Printed :=
  if first.endsHere then first else ⟨first.text ++ second.text, second.endsHere⟩

/-- The character that a single letter behind a backslash stands for. -/
def letterEscape? (c : Char) : Option Char :=
  match c with
  | 'a' => some '\x07'
  | 'b' => some '\x08'
  | 'e' => some '\x1b'
  | 'f' => some '\x0c'
  | 'n' => some '\n'
  | 'r' => some '\r'
  | 't' => some '\t'
  | 'v' => some '\x0b'
  | '\\' => some '\\'
  | _ => none

/-- The character with the number that at most so many octal digits spell, and what follows. -/
def octalEscape (most : Nat) (s : Octets) : Char × Octets :=
  let digits := (s.take most).takeWhile fun c => '0' ≤ c && c ≤ '7'
  let value := digits.foldl (fun n c => n * 8 + Octets.digitValue c) 0
  (Char.ofNat (value % 256), s.drop digits.length)

/-- Reads the escapes of an argument: a zero behind a backslash may have three more octal
digits, and `c` ends all printing. -/
def readEscapes : Nat → Octets → Printed
  | 0, _ => ⟨[], false⟩
  | _, [] => ⟨[], false⟩
  | fuel + 1, '\\' :: c :: rest =>
    if c = 'c' then ⟨[], true⟩
    else
      match letterEscape? c with
      | some d => Printed.then_ ⟨[d], false⟩ (readEscapes fuel rest)
      | none =>
        if '0' ≤ c && c ≤ '7' then
          let (d, rest) := octalEscape 3 (if c = '0' then rest else c :: rest)
          Printed.then_ ⟨[d], false⟩ (readEscapes fuel rest)
        else Printed.then_ ⟨['\\', c], false⟩ (readEscapes fuel rest)
  | fuel + 1, c :: rest => Printed.then_ ⟨[c], false⟩ (readEscapes fuel rest)

/-- The text of a whole text with escapes. -/
def withEscapes (s : Octets) : Printed :=
  readEscapes (s.length + 1) s

/-- What a shell prints for the arguments of `echo`: escapes are read, and `-n` leaves away
the line feed. -/
def echoed (args : List Octets) : Octets :=
  let isBare := args.head? = some ['-', 'n']
  let printed := withEscapes (Octets.join [' '] (if isBare then args.drop 1 else args))
  if isBare || printed.endsHere then printed.text else printed.text ++ ['\n']

/-- Whether an argument is a group of options of `echo`. -/
def isEchoOption (arg : Octets) : Bool :=
  match arg with
  | '-' :: c :: letters => (c :: letters).all fun c => c == 'n' || c == 'e' || c == 'E'
  | _ => false

/-- Prints the arguments; escapes are read on demand. -/
def echo (call : Call) : Finished :=
  let options := (call.args.takeWhile isEchoOption).flatMap (·.drop 1)
  let text := Octets.join [' '] (call.args.dropWhile isEchoOption)
  let readsEscapes := (options.reverse.find? fun c => c != 'n') == some 'e'
  let printed := if readsEscapes then withEscapes text else ⟨text, false⟩
  .saying 0 (if options.contains 'n' || printed.endsHere then printed.text
    else printed.text ++ ['\n']) []

/-- A place in a format. -/
structure Field where
  leftAligned : Bool := false
  signed : Bool := false
  spaced : Bool := false
  alternate : Bool := false
  zeros : Bool := false
  width : Nat := 0
  precision : Option Nat := none
  kind : Char := 's'

/-- Fills up a text to the width of a field. -/
def Field.pad (f : Field) (s : Octets) : Octets :=
  let filling := List.replicate (f.width - s.length) ' '
  if f.leftAligned then s ++ filling else filling ++ s

/-- A sign and digits, filled up with zeros in between if the field asks for that. -/
def Field.padNumber (f : Field) (sign digits : Octets) : Octets :=
  let zeros := if f.zeros && !f.leftAligned then f.width - sign.length - digits.length else 0
  f.pad (sign ++ List.replicate zeros '0' ++ digits)

/-- A field in which zeros do not fill up, since there is a precision. -/
def Field.forInteger (f : Field) : Field := { f with zeros := f.zeros && f.precision.isNone }

/-- The sign of a number. -/
def Field.sign (f : Field) (isNegative : Bool) : Octets :=
  if isNegative then ['-'] else if f.signed then ['+'] else if f.spaced then [' '] else []

/-- The digits of an integer. -/
def Field.digits (f : Field) (base n : Nat) : Octets :=
  if n = 0 && f.precision = some 0 then [] else Decimal.digitsIn base (f.precision.getD 1) n

/-- An integer in a field. -/
def Field.integer (f : Field) (n : Int) : Octets :=
  f.forInteger.padNumber (f.sign (n < 0)) (f.digits 10 n.natAbs)

/-- A number without a sign in a field. -/
def Field.natural (f : Field) (base : Nat) (isUpper : Bool) (n : Int) : Octets :=
  let value := (n % (2 * Octets.integerBound)).toNat
  let digits := f.digits base value
  let digits := if isUpper then digits.map Char.toUpper else digits
  let front :=
    if !f.alternate then []
    else if base = 16 && value != 0 then (if isUpper then ['0', 'X'] else ['0', 'x'])
    else if base = 8 && digits.head? != some '0' then ['0']
    else []
  f.forInteger.padNumber front digits

/-- What can be wrong with an argument that should be a number. -/
inductive Flaw where
  | noNumber
  | moreBehind
  | outOfRange
  deriving DecidableEq, Repr

/-- What is wrong, in words. -/
def Flaw.message : Flaw → String
  | noNumber => "expected numeric value"
  | moreBehind => "not completely converted"
  | outOfRange => "Numerical result out of range"

/-- The number of the character behind a quote at the front of an argument. -/
def characterArgument? (arg : Octets) : Option Nat :=
  match arg with
  | '"' :: rest => some (rest.headD '\x00').toNat
  | '\'' :: rest => some (rest.headD '\x00').toNat
  | _ => none

/-- The value of an argument that should be an integer, and what is wrong with it.  There is a
place for the integers from one to before another one; what is below them becomes `low`. -/
def integerArgument (least bound low : Int) (arg : Octets) : Int × Option Flaw :=
  match characterArgument? arg with
  | some n => (n, none)
  | none =>
    if arg.isEmpty then (0, none)
    else
      match Octets.readInteger Octets.readMarked arg with
      | some (n, rest) =>
        let fits := least ≤ n && n < bound
        (if fits then n else if n < least then low else bound - 1,
          if !rest.isEmpty then some .moreBehind
          else if !fits then some .outOfRange
          else none)
      | none => (0, some .noNumber)

/-- The value of an argument with a sign. -/
def signedArgument (arg : Octets) : Int × Option Flaw :=
  integerArgument (-Octets.integerBound) Octets.integerBound (-Octets.integerBound) arg

/-- The value of an argument for which a sign has no place: behind a minus it is counted down
from the bound. -/
def unsignedArgument (arg : Octets) : Int × Option Flaw :=
  let bound := 2 * Octets.integerBound
  integerArgument (1 - bound) bound (bound - 1) arg

/-- The value of an argument that may have a fraction, whether it has a minus sign, and what is
wrong with it. -/
def fractionArgument (arg : Octets) : Magnitude × Bool × Option Flaw :=
  match characterArgument? arg with
  | some n => (.fraction n 1, false, none)
  | none =>
    let text := arg.dropWhile Octets.isSpace
    let isSigned := text.head? = some '-' || text.head? = some '+'
    match Magnitude.read (if isSigned then text.drop 1 else text) with
    | some (number, rest) =>
      let (number, isBeyond) := number.nearest
      let flaw :=
        if !rest.isEmpty then some .moreBehind else if isBeyond then some .outOfRange else none
      (number, text.head? = some '-', flaw)
    | none => (.zero, false, if arg.isEmpty then none else some Flaw.noNumber)

/-- A number with a fraction in a field. -/
def Field.fraction (f : Field) (isNegative : Bool) (number : Magnitude) : Octets :=
  let places := f.precision.getD 6
  let isUpper := f.kind.isUpper
  let shown (s : Octets) : Octets := if isUpper then s.map Char.toUpper else s
  let sign := f.sign isNegative
  match number with
  | .endless => f.pad (shown (sign ++ "inf".toList))
  | .undefined => f.pad (shown (sign ++ "nan".toList))
  | .fraction n d =>
    match f.kind.toLower with
    | 'a' =>
      let digits := shown (Decimal.hexadecimal f.alternate f.precision n d)
      f.padNumber (sign ++ digits.take 2) (digits.drop 2)
    | 'e' => f.padNumber sign (shown (Decimal.scientific f.alternate places n d))
    | 'g' => f.padNumber sign (shown (Decimal.general f.alternate (max places 1) n d))
    | _ => f.padNumber sign (Decimal.fixed f.alternate places n d)

/-- What becomes of a format. -/
structure Formatted where
  text : Octets := []
  endsHere : Bool := false
  /-- Complaints about arguments that are not what they should be. -/
  complaints : List Octets := []
  /-- The complaint about a field that makes no sense, which ends all printing. -/
  fault? : Option Octets := none
  /-- The arguments that are left. -/
  left : List Octets := []

/-- What is in front of another part. -/
def Formatted.then_ (first second : Formatted) : Formatted :=
  { second with
    text := first.text ++ second.text, complaints := first.complaints ++ second.complaints }

/-- Reads the flags at the front of a field. -/
def readFlags : Field → Octets → Field × Octets
  | f, '-' :: rest => readFlags { f with leftAligned := true } rest
  | f, '+' :: rest => readFlags { f with signed := true } rest
  | f, ' ' :: rest => readFlags { f with spaced := true } rest
  | f, '#' :: rest => readFlags { f with alternate := true } rest
  | f, '0' :: rest => readFlags { f with zeros := true } rest
  | f, rest => (f, rest)

/-- The complaint about an argument. -/
def flawed (arg : Octets) (flaw? : Option Flaw) : List Octets :=
  flaw?.toList.map fun flaw => arg ++ ": ".toList ++ flaw.message.toList

/-- A field that was read. -/
structure FieldRead where
  field : Field
  /-- The format behind it. -/
  rest : Octets
  /-- The arguments that are left. -/
  left : List Octets
  complaints : List Octets := []

/-- The greatest size of a field. -/
def greatestSize : Nat := 1000000

/-- Reads a number of a field: digits, or a star for the next argument. -/
def FieldRead.size (r : FieldRead) : Int × FieldRead :=
  match r.rest with
  | '*' :: rest =>
    let arg := r.left.headD []
    let (n, flaw?) := signedArgument arg
    (max (-greatestSize) (min n greatestSize),
      { r with rest, left := r.left.drop 1, complaints := r.complaints ++ flawed arg flaw? })
  | _ =>
    match Octets.readDigits 10 r.rest with
    | some (n, rest) => (min n greatestSize, { r with rest })
    | none => (0, r)

/-- Reads a field behind a percent sign, up to the letter that tells its kind. -/
def readField (s : Octets) (left : List Octets) : FieldRead :=
  let (field, rest) := readFlags {} s
  let (width, r) := { field, rest, left : FieldRead }.size
  let field := { field with
    width := width.natAbs, leftAligned := field.leftAligned || width < 0 }
  match r.rest with
  | '.' :: rest =>
    let (precision, r) := { r with rest }.size
    { r with field :=
        { field with precision := if precision < 0 then none else some precision.toNat } }
  | _ => { r with field }

/-- Fills in one field with an argument. -/
def Field.fill (f : Field) (arg : Octets) : Formatted :=
  let (signed, signedFlaw) := signedArgument arg
  let (unsigned, unsignedFlaw) := unsignedArgument arg
  match f.kind with
  | 's' => { text := f.pad (f.precision.elim arg arg.take) }
  | 'b' =>
    let printed := withEscapes arg
    { text := f.pad (f.precision.elim printed.text printed.text.take)
      endsHere := printed.endsHere }
  | 'c' => { text := f.pad [arg.headD '\x00'] }
  | 'd' => { text := f.integer signed, complaints := flawed arg signedFlaw }
  | 'i' => { text := f.integer signed, complaints := flawed arg signedFlaw }
  | 'u' => { text := f.natural 10 false unsigned, complaints := flawed arg unsignedFlaw }
  | 'o' => { text := f.natural 8 false unsigned, complaints := flawed arg unsignedFlaw }
  | 'x' => { text := f.natural 16 false unsigned, complaints := flawed arg unsignedFlaw }
  | 'X' => { text := f.natural 16 true unsigned, complaints := flawed arg unsignedFlaw }
  | _ =>
    let (number, isNegative, flaw?) := fractionArgument arg
    { text := f.fraction isNegative number, complaints := flawed arg flaw? }

/-- The letters that tell the kind of a field. -/
def fieldKinds : List Char :=
  ['s', 'b', 'c', 'd', 'i', 'u', 'o', 'x', 'X', 'a', 'A', 'e', 'E', 'f', 'F', 'g', 'G']

/-- Goes through a format once. -/
def formatOnce : Nat → Octets → List Octets → Formatted
  | 0, _, left => { left }
  | _, [], left => { left }
  | fuel + 1, '\\' :: c :: rest, left =>
    let (shown, rest) :=
      match letterEscape? c with
      | some d => (d, rest)
      | none =>
        if '0' ≤ c && c ≤ '7' then octalEscape 3 (c :: rest) else ('\\', c :: rest)
    Formatted.then_ { text := [shown] } (formatOnce fuel rest left)
  | fuel + 1, '%' :: '%' :: rest, left =>
    Formatted.then_ { text := ['%'] } (formatOnce fuel rest left)
  | fuel + 1, '%' :: rest, args =>
    let r := readField rest args
    match r.rest with
    | [] => { fault? := some "missing format character".toList, complaints := r.complaints }
    | kind :: behind =>
      if !fieldKinds.contains kind then
        let directive := '%' :: rest.take (rest.length - behind.length)
        { fault? := some (directive ++ ": invalid directive".toList)
          complaints := r.complaints }
      else
        let filled := { r.field with kind }.fill (r.left.headD [])
        let filled := { filled with complaints := r.complaints ++ filled.complaints }
        if filled.endsHere then filled
        else filled.then_ (formatOnce fuel behind (r.left.drop 1))
  | fuel + 1, c :: rest, left => Formatted.then_ { text := [c] } (formatOnce fuel rest left)

/-- Goes through a format until no arguments are left, or it takes none. -/
def formatAll (format : Octets) : Nat → List Octets → Formatted
  | 0, args => formatOnce (format.length + 1) format args
  | fuel + 1, args =>
    let once := formatOnce (format.length + 1) format args
    let isDone := once.left.isEmpty || once.left.length = args.length
    if once.endsHere || once.fault?.isSome || isDone then once
    else once.then_ (formatAll format fuel once.left)

/-- Prints arguments by a format.  There are no options. -/
def print (call : Call) : Finished :=
  let isOption (arg : Octets) : Bool := arg.head? == some '-' && 1 < arg.length
  let isClosed := call.args.head? = some ['-', '-']
  match if isClosed then call.args.drop 1 else call.args with
  | [] => call.fail 2 "usage: printf format [arg ...]".toList
  | format :: args =>
    if !isClosed && isOption format then
      call.fail 2 ("Illegal option -".toList ++ (format.drop 1).take 1)
    else
      let f := formatAll format args.length args
      .saying (if f.fault?.isSome then 2 else if f.complaints.isEmpty then 0 else 1) f.text
        ((f.complaints ++ f.fault?.toList).flatMap call.complaint)

end SyscallPolicy.Host.Utility
