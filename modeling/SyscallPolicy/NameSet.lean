/-!
# Canonical sets of names

A set of names is kept as the list of its members in strictly increasing order, so
that equal sets are equal lists.  The order of strings compares their code points
one by one, which for well-formed text is also the order of its UTF-8 bytes.
-/

namespace SyscallPolicy

/-- The names in strictly increasing order. -/
def IsCanonical (names : List String) : Prop :=
  names.Pairwise (· < ·)

namespace NameSet

/-- Adds a name to a set; a name that is already there is not added again. -/
def insert (name : String) : List String → List String
  | [] => [name]
  | other :: rest =>
    if name < other then name :: other :: rest
    else if name = other then other :: rest
    else other :: insert name rest

@[simp]
theorem mem_insert {name other : String} {names : List String} :
    other ∈ insert name names ↔ other = name ∨ other ∈ names := by
  induction names with
  | nil => simp [insert]
  | cons first rest ih =>
    rw [insert]
    split
    · simp
    · split
      · simp_all
      · rw [List.mem_cons, ih, List.mem_cons, or_left_comm]

/-- The set of the names in a list. -/
def ofList (names : List String) : List String :=
  names.foldr insert []

@[simp]
theorem mem_ofList {name : String} {names : List String} : name ∈ ofList names ↔ name ∈ names := by
  induction names with
  | nil => simp [ofList]
  | cons first rest ih =>
    rw [ofList, List.foldr_cons, mem_insert, List.mem_cons]
    exact or_congr_right ih

end NameSet

end SyscallPolicy
