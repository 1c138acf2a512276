/-!
# TOML values

The tree that a TOML document stands for.  Floats and moments in time are told apart
from other values but not evaluated, since no setting is one of them.
-/

namespace SyscallPolicy

/-- A TOML value. -/
inductive Toml where
  | string (value : String)
  | integer (value : Int)
  | float
  | boolean (value : Bool)
  | moment
  | array (items : List Toml)
  | table (entries : List (String × Toml))

namespace Toml

instance : Inhabited Toml := ⟨.table []⟩

/-- The string that a value is. -/
def string? : Toml → Option String
  | .string value => some value
  | _ => none

/-- The Boolean that a value is. -/
def boolean? : Toml → Option Bool
  | .boolean value => some value
  | _ => none

/-- The natural number that a value is. -/
def natural? : Toml → Option Nat
  | .integer value => if 0 ≤ value then some value.toNat else none
  | _ => none

/-- The strings that the items of an array are. -/
def strings? : Toml → Option (List String)
  | .array items => items.mapM string?
  | _ => none

/-- The values of the fields with these names, in order: those of a table by their keys,
those of an array by their places.  A moment is a table that has none of them. -/
def fields? (names : List String) : Toml → Option (List (Option Toml))
  | .table entries => some (names.map fun name => entries.lookup name)
  | .array items => some ((List.range names.length).map fun i => items[i]?)
  | .moment => some (names.map fun _ => none)
  | _ => none

end Toml

end SyscallPolicy
