import SyscallPolicy.Host.Octets

/-!
# Rights of new files

The rights that new files do not get, as three octal digits: for the owner, for the group
and for all others.  They can be changed by clauses that give rights, take them away, or
tell which ones there are.
-/

namespace SyscallPolicy.Host.Shell.Rights

/-- All rights of everybody. -/
def all : Nat := 0o777

/-- The rights of those whom a letter stands for. -/
def ofWhom? (c : Char) : Option Nat :=
  [('u', 0o700), ('g', 0o070), ('o', 0o007), ('a', 0o777)].lookup c

/-- The rights that a letter stands for, where these rights are there already. -/
def ofLetter? (rights : Nat) (c : Char) : Option Nat :=
  match c with
  | 'r' => some 0o444
  | 'w' => some 0o222
  | 'x' => some 0o111
  | 'X' => some (if rights &&& 0o111 = 0 then 0 else 0o111)
  | 's' => some 0
  | 't' => some 0
  | 'u' => some (rights / 64 * 0o111)
  | 'g' => some (rights / 8 % 8 * 0o111)
  | 'o' => some (rights % 8 * 0o111)
  | _ => none

/-- Changes rights by the actions of a clause, given whose rights they are about. -/
def act (whose : Nat) : Nat → Octets → Nat → Option Nat
  | 0, _, _ => none
  | _, [], rights => some rights
  | fuel + 1, sign :: rest, rights =>
    let isSign (c : Char) : Bool := c == '+' || c == '-' || c == '='
    if !isSign sign then none
    else
      let letters := rest.takeWhile fun c => !isSign c
      (letters.mapM (ofLetter? rights)).bind fun found =>
        let given := found.foldl (fun n m => n ||| m) 0 &&& whose
        let next :=
          if sign = '+' then rights ||| given
          else if sign = '-' then rights &&& (all ^^^ given)
          else (rights &&& (all ^^^ whose)) ||| given
        act whose fuel (rest.drop letters.length) next

/-- Changes rights by a clause. -/
def clause? (rights : Nat) (clause : Octets) : Option Nat :=
  let whom := clause.takeWhile fun c => (ofWhom? c).isSome
  let actions := clause.drop whom.length
  let whose := (whom.filterMap ofWhom?).foldl (fun n m => n ||| m) 0
  if clause.isEmpty then some rights
  else if actions.isEmpty then none
  else act (if whom.isEmpty then all else whose) (clause.length + 1) actions rights

/-- The missing rights that a text asks for, given those that are missing now. -/
def read? (missing : Nat) (text : Octets) : Option Nat :=
  ((Octets.cut ',' text).foldl (fun rights? clause => rights?.bind fun rights =>
    clause? rights clause) (some (all ^^^ missing))).map fun rights => all ^^^ rights

/-- Missing rights as four octal digits. -/
def digits (missing : Nat) : Octets :=
  let digits := Nat.toDigits 8 missing
  List.replicate (4 - digits.length) '0' ++ digits

/-- The rights that are left, as clauses. -/
def clauses (missing : Nat) : Octets :=
  let rights := all ^^^ missing
  let letters (n : Nat) : Octets :=
    (if n / 4 % 2 = 1 then ['r'] else []) ++ (if n / 2 % 2 = 1 then ['w'] else []) ++
      (if n % 2 = 1 then ['x'] else [])
  "u=".toList ++ letters (rights / 64) ++ ",g=".toList ++ letters (rights / 8) ++
    ",o=".toList ++ letters rights

end SyscallPolicy.Host.Shell.Rights
