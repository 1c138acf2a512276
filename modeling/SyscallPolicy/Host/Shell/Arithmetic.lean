import SyscallPolicy.Host.Shell.Syntax

/-!
# Arithmetic

Expressions over integers of 64 bits: the usual signs with their usual strengths, choices,
and assignments to variables.  A side that does not count is read but not worked out.

A division by zero is a fault like any other.  A quotient that has no place in 64 bits is
more than that: the machine stops the process that asks for it.
-/

namespace SyscallPolicy.Host.Shell.Arithmetic

/-- What can be wrong with an expression. -/
inductive Fault where
  /-- Something else should stand where it is. -/
  | expected (what : String)
  | divisionByZero
  /-- The value of a variable is no number. -/
  | badNumber (text : Octets)
  /-- A variable that may not be changed is given a value. -/
  | readOnly (name : Octets)
  /-- A quotient has no place in 64 bits. -/
  | quotientTooLarge
  deriving DecidableEq

/-- What is wrong with an expression, in words. -/
def Fault.reason (expression : Octets) : Fault → Octets
  | expected what => about ("expecting " ++ what)
  | divisionByZero => about "division by zero"
  | badNumber text => "Illegal number: ".toList ++ text
  | readOnly name => name ++ ": is read only".toList
  | quotientTooLarge => about "quotient too large"
where
  about (what : String) : Octets :=
    "arithmetic expression: ".toList ++ what.toList ++ ": \"".toList ++ expression ++ ['"']

/-- A token of an expression. -/
inductive Token where
  | number (value : Int)
  | name (text : Octets)
  | sign (text : String)
  /-- A character that has no meaning. -/
  | other (c : Char)
  deriving DecidableEq

/-- The signs, the longer ones first. -/
def signs : List String :=
  ["<<=", ">>=", "<<", ">>", "<=", ">=", "==", "!=", "&&", "||", "+=", "-=", "*=", "/=", "%=",
   "&=", "^=", "|=", "+", "-", "*", "/", "%", "&", "|", "^", "~", "!", "<", ">", "=", "?", ":",
   "(", ")"]

/-- Cuts a text into tokens. -/
def tokens : Nat → Octets → List Token
  | 0, _ => []
  | _, [] => []
  | fuel + 1, c :: rest =>
    if c = ' ' ∨ c = '\t' ∨ c = '\n' then tokens fuel rest
    else if c.isDigit then
      match Octets.readMarked (c :: rest) with
      | some (value, rest) =>
        .number (min value (Octets.integerBound - 1)) :: tokens fuel rest
      | none => [.other c]
    else if beginsName c then
      let name := (c :: rest).takeWhile isInName
      .name name :: tokens fuel ((c :: rest).drop name.length)
    else
      match signs.find? fun sign => sign.toList.isPrefixOf (c :: rest) with
      | some sign => .sign sign :: tokens fuel ((c :: rest).drop sign.length)
      | none => .other c :: tokens fuel rest

/-- An expression. -/
inductive Expression where
  | number (value : Int)
  | reference (name : Octets)
  | unary (sign : String) (operand : Expression)
  | binary (sign : String) (left right : Expression)
  | choice (condition yes no : Expression)
  /-- A value for a variable, made of its old one by a sign if there is one. -/
  | assign (sign : String) (name : Octets) (value : Expression)

/-- The strength of a sign between two operands. -/
def strength? (sign : String) : Option Nat :=
  match sign with
  | "||" => some 1
  | "&&" => some 2
  | "|" => some 3
  | "^" => some 4
  | "&" => some 5
  | "==" => some 6
  | "!=" => some 6
  | "<" => some 7
  | "<=" => some 7
  | ">" => some 7
  | ">=" => some 7
  | "<<" => some 8
  | ">>" => some 8
  | "+" => some 9
  | "-" => some 9
  | "*" => some 10
  | "/" => some 10
  | "%" => some 10
  | _ => none

/-- The sign that an assignment works with. -/
def assignment? (sign : String) : Option String :=
  match sign with
  | "=" => some ""
  | "+=" => some "+"
  | "-=" => some "-"
  | "*=" => some "*"
  | "/=" => some "/"
  | "%=" => some "%"
  | "<<=" => some "<<"
  | ">>=" => some ">>"
  | "&=" => some "&"
  | "^=" => some "^"
  | "|=" => some "|"
  | _ => none

/-- What was read, and the tokens behind it. -/
abbrev Found := Except Fault (Expression × List Token)

mutual

/-- Reads an assignment, or a choice. -/
def whole : Nat → List Token → Found
  | 0, _ => .error (.expected "primary")
  | fuel + 1, tokens =>
    match tokens with
    | .name name :: .sign sign :: rest =>
      match assignment? sign with
      | some work => do
        let (value, rest) ← whole fuel rest
        return (.assign work name value, rest)
      | none => choice fuel tokens
    | _ => choice fuel tokens

/-- Reads a choice, or what is stronger. -/
def choice : Nat → List Token → Found
  | 0, _ => .error (.expected "primary")
  | fuel + 1, tokens => do
    let (condition, rest) ← operation fuel 1 tokens
    match rest with
    | .sign "?" :: rest =>
      let (yes, rest) ← whole fuel rest
      match rest with
      | .sign ":" :: rest =>
        let (no, rest) ← choice fuel rest
        return (.choice condition yes no, rest)
      | _ => .error (.expected "':'")
    | _ => return (condition, rest)

/-- Reads operations of at least this strength. -/
def operation : Nat → Nat → List Token → Found
  | 0, _, _ => .error (.expected "primary")
  | fuel + 1, least, tokens => do
    let (left, rest) ← operand fuel tokens
    operationRest fuel least left rest

/-- Reads what may follow an operand. -/
def operationRest : Nat → Nat → Expression → List Token → Found
  | 0, _, _, _ => .error (.expected "primary")
  | fuel + 1, least, left, tokens =>
    match tokens with
    | .sign sign :: rest =>
      match strength? sign with
      | some strength =>
        if least ≤ strength then do
          let (right, rest) ← operation fuel (strength + 1) rest
          operationRest fuel least (.binary sign left right) rest
        else .ok (left, tokens)
      | none => .ok (left, tokens)
    | _ => .ok (left, tokens)

/-- Reads an operand. -/
def operand : Nat → List Token → Found
  | 0, _ => .error (.expected "primary")
  | fuel + 1, tokens =>
    match tokens with
    | .number value :: rest => .ok (.number value, rest)
    | .name name :: rest => .ok (.reference name, rest)
    | .sign "(" :: rest => do
      let (inner, rest) ← whole fuel rest
      match rest with
      | .sign ")" :: rest => return (inner, rest)
      | _ => .error (.expected "')'")
    | .sign sign :: rest =>
      if ["!", "~", "-", "+"].contains sign then do
        let (inner, rest) ← operand fuel rest
        return (.unary sign inner, rest)
      else .error (.expected "primary")
    | _ => .error (.expected "primary")

end

/-- The expression that a text is. -/
def read (s : Octets) : Except Fault Expression := do
  let tokens := tokens (s.length + 1) s
  match ← whole (16 * tokens.length + 16) tokens with
  | (found, []) => return found
  | _ => .error (.expected "EOF")

/-- The integer of 64 bits that is the same up to what does not fit. -/
def wrapped (n : Int) : Int :=
  Int.bmod n 18446744073709551616

/-- The number for whether something holds. -/
def truth (holds : Bool) : Int := if holds then 1 else 0

/-- The bits of an integer. -/
def bits (n : Int) : Nat := (n % 18446744073709551616).toNat

/-- A division of integers in some way. -/
def divide (way : Int → Int → Int) (m n : Int) : Except Fault Int :=
  if n = 0 then .error .divisionByZero
  else if m = -Octets.integerBound && n = -1 then .error .quotientTooLarge
  else .ok (way m n)

/-- An operation on two integers. -/
def operate (sign : String) (m n : Int) : Except Fault Int :=
  match sign with
  | "||" => .ok (truth (m != 0 || n != 0))
  | "&&" => .ok (truth (m != 0 && n != 0))
  | "|" => .ok (wrapped (bits m ||| bits n : Nat))
  | "^" => .ok (wrapped (Nat.xor (bits m) (bits n) : Nat))
  | "&" => .ok (wrapped (bits m &&& bits n : Nat))
  | "==" => .ok (truth (m == n))
  | "!=" => .ok (truth (m != n))
  | "<" => .ok (truth (m < n))
  | "<=" => .ok (truth (m ≤ n))
  | ">" => .ok (truth (n < m))
  | ">=" => .ok (truth (n ≤ m))
  | "<<" => .ok (wrapped (m * (Nat.pow 2 (bits n % 64) : Nat)))
  | ">>" => .ok (Int.fdiv m (Nat.pow 2 (bits n % 64) : Nat))
  | "+" => .ok (wrapped (m + n))
  | "-" => .ok (wrapped (m - n))
  | "*" => .ok (wrapped (m * n))
  | "/" => divide Int.tdiv m n
  | "%" => divide Int.tmod m n
  | _ => .ok n

/-- An operation on one integer. -/
def applyOne (sign : String) (n : Int) : Int :=
  match sign with
  | "!" => truth (n == 0)
  | "~" => -n - 1
  | "-" => wrapped (-n)
  | _ => n

/-- Works out an expression, where variables are read from and put into a store. -/
def Expression.value {α : Type} (get : Octets → α → Except Fault Int)
    (put : Octets → Int → α → Except Fault α) : Expression → α → Except Fault (Int × α)
  | number value, store => return (value, store)
  | reference name, store => return (← get name store, store)
  | unary sign operand, store => do
    let (n, store) ← operand.value get put store
    return (applyOne sign n, store)
  | binary sign left right, store => do
    let (m, store) ← left.value get put store
    if sign = "&&" && m == 0 then return (0, store)
    else if sign = "||" && m != 0 then return (1, store)
    else
      let (n, store) ← right.value get put store
      return (← operate sign m n, store)
  | choice condition yes no, store => do
    let (n, store) ← condition.value get put store
    if n != 0 then yes.value get put store else no.value get put store
  | assign sign name value, store => do
    let (n, store) ← value.value get put store
    let n ← if sign = "" then pure n else do operate sign (← get name store) n
    return (n, ← put name n store)

end SyscallPolicy.Host.Shell.Arithmetic
