/-!
# JSON values

A JSON text stands for a tree.  The tree keeps what a reader of documents may still ask
for: the members of an object in written order with repetitions, the literal of a number
without a range, and the symbols of a key or a string, of which some are no characters.
-/

namespace SyscallPolicy

namespace Json

/-- What one written symbol of a string stands for. -/
inductive Symbol where
  /-- A character. -/
  | char (c : Char)
  /-- Half of a surrogate pair, given by its code unit. -/
  | half (unit : Nat)
  deriving DecidableEq, Repr

/-- Whether a code unit opens a surrogate pair. -/
def isLeading (unit : Nat) : Bool :=
  0xD800 ≤ unit && unit < 0xDC00

/-- Whether a code unit closes a surrogate pair. -/
def isTrailing (unit : Nat) : Bool :=
  0xDC00 ≤ unit && unit < 0xE000

/-- The character that a surrogate pair stands for. -/
def pairChar (leading trailing : Nat) : Char :=
  Char.ofNat (0x10000 + (leading - 0xD800) * 0x400 + (trailing - 0xDC00))

/-- What a code unit stands for. -/
def Symbol.ofUnit (unit : Nat) : Symbol :=
  if isLeading unit || isTrailing unit then .half unit else .char (Char.ofNat unit)

/-- The characters that symbols stand for; `none` if a surrogate half has no partner. -/
def text? : List Symbol → Option (List Char)
  | [] => some []
  | .char c :: rest => (text? rest).map (c :: ·)
  | .half leading :: .half trailing :: rest =>
    if isLeading leading && isTrailing trailing then
      (text? rest).map (pairChar leading trailing :: ·)
    else none
  | .half _ :: _ => none

/-- The symbols of a string of characters. -/
def symbolsOf (s : List Char) : List Symbol :=
  s.map .char

@[simp]
theorem text?_symbolsOf (s : List Char) : text? (symbolsOf s) = some s := by
  induction s with
  | nil => rfl
  | cons c s ih =>
    simp only [symbolsOf, List.map_cons] at ih ⊢
    simp [text?, ih]

end Json

/-- A JSON value. -/
inductive Json where
  | null
  | bool (value : Bool)
  | number (literal : List Char)
  | string (symbols : List Json.Symbol)
  | array (items : List Json)
  | object (members : List (List Json.Symbol × Json))

namespace Json

instance : Inhabited Json := ⟨.null⟩

/-- The value of a string of characters. -/
def ofString (s : String) : Json :=
  .string (symbolsOf s.toList)

/-- The string that symbols stand for, if all of them pair up. -/
def textOf? (symbols : List Symbol) : Option String :=
  (text? symbols).map String.ofList

/-- The string that a value holds, if it is one and all its symbols pair up. -/
def string? : Json → Option String
  | .string symbols => textOf? symbols
  | _ => none

/-- A member of this name. -/
def member (key : String) (value : Json) : List Symbol × Json :=
  (symbolsOf key.toList, value)

/-- The members of an object by their names, if all keys are strings. -/
def named? (members : List (List Symbol × Json)) : Option (List (String × Json)) :=
  members.mapM fun (key, value) => (textOf? key).map (·, value)

/-- The items of an array. -/
def array? : Json → Option (List Json)
  | .array items => some items
  | _ => none

@[simp]
theorem string?_ofString (s : String) : (ofString s).string? = some s := by
  simp [ofString, string?, textOf?]

end Json

end SyscallPolicy
