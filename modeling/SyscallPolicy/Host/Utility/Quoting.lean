import SyscallPolicy.Host.Octets

/-!
# Names in complaints

A name stands in a complaint as it could be given to a shell: as it is if nothing in it has a
meaning there, and in quotes otherwise.
-/

namespace SyscallPolicy.Host.Utility

/-- Whether a character can be seen. -/
def isSeen (c : Char) : Bool := ' ' ≤ c && c ≤ '~'

/-- Whether a character has a meaning to a shell anywhere in a word. -/
def hasMeaning (c : Char) : Bool :=
  !isSeen c || " !\"$&'()*;<=>?[\\^`|:".toList.contains c

/-- Whether a character stands for itself between double quotes of any kind. -/
def isHarmless (c : Char) : Bool :=
  c.isAlphanum || " %+,-./:_@]'".toList.contains c

/-- The text of a character that cannot be seen behind a backslash. -/
def escapeOf (c : Char) : Octets :=
  match c with
  | '\x07' => ['a']
  | '\x08' => ['b']
  | '\x0c' => ['f']
  | '\n' => ['n']
  | '\r' => ['r']
  | '\t' => ['t']
  | '\x0b' => ['v']
  | _ =>
    let digits := Nat.toDigits 8 c.toNat
    List.replicate (3 - digits.length) '0' ++ digits

/-- A name in single quotes, with what cannot be seen in quotes of another kind. -/
def inSingleQuotes (name : Octets) : Octets :=
  let runs := name.splitBy fun a b => isSeen a == isSeen b
  let shown := runs.flatMap fun run =>
    if run.all isSeen then
      run.flatMap fun c => if c = '\'' then "'\\''".toList else [c]
    else "'$'".toList ++ run.flatMap (fun c => '\\' :: escapeOf c) ++ "''".toList
  let body := if name.getLast?.any (fun c => !isSeen c) then shown.dropLast else shown ++ ['\'']
  '\'' :: body

/-- A name that has a meaning to a shell as it could be given to it. -/
def inShellQuotes (name : Octets) : Octets :=
  if name.contains '\'' && name.all isHarmless then '"' :: name ++ ['"'] else inSingleQuotes name

/-- A name as it stands in a complaint. -/
def quoted (name : Octets) : Octets :=
  let isBrace := name = ['\x7b'] || name = ['\x7d']
  if name.isEmpty then ['\'', '\'']
  else if isBrace || name.any hasMeaning || name.head? = some '#' || name.head? = some '~' then
    inShellQuotes name
  else name

/-- A name in quotes in any case. -/
def alwaysQuoted (name : Octets) : Octets :=
  if quoted name = name then '\'' :: name ++ ['\''] else inShellQuotes name

/-- A word in plain quotes. -/
def inPlainQuotes (word : Octets) : Octets :=
  '\'' :: word.flatMap (fun c =>
    if c = '\'' then ['\\', '\'']
    else if c = '\\' then ['\\', '\\']
    else if isSeen c then [c]
    else '\\' :: escapeOf c) ++ ['\'']

end SyscallPolicy.Host.Utility
