import SyscallPolicy.Toml.Value

/-!
# How the tables of a TOML document come to be

A table is made by a header, by the path to a header or to a key below it, or as the
value of a key.  A key is given a value once.  A header may complete a table that so far
was only passed on the way to others, but no table that a header or a key with points
has made.  A key with points adds to tables that such keys have made, and to no others.
A double header appends a table to an array; a path through that array leads to its last
table.
-/

namespace SyscallPolicy.Toml

/-- How a table was made. -/
inductive Origin where
  /-- By a header of its own, or as the document itself. -/
  | header
  /-- On the way of a header to a table below. -/
  | passed
  /-- On the way of a key with points. -/
  | dotted
  deriving DecidableEq, Repr

/-- A tree in the making. -/
inductive Node where
  /-- The value of a key; nothing is added to it. -/
  | leaf (value : Toml)
  | table (origin : Origin) (entries : List (String × Node))
  /-- The tables of double headers, the last one first. -/
  | tables (last : List (String × Node)) (others : List (List (String × Node)))

/-- The entries of a table in the making. -/
abbrev Entries := List (String × Node)

/-- Changes the entry of a key, or makes one. -/
def alter (key : String) (change : Option Node → Option Node) : Entries → Option Entries
  | [] => (change none).map fun node => [(key, node)]
  | (other, node) :: rest =>
    if other = key then (change (some node)).map fun node => (key, node) :: rest
    else (alter key change rest).map ((other, node) :: ·)

/-- Changes the table that a path leads to from a table of this origin, making the tables
on the way that are missing. -/
def descend (origin : Origin) (change : Origin → Entries → Option Entries) :
    List String → Origin → Entries → Option Entries
  | [], here, entries => change here entries
  | key :: path, _, entries =>
    alter key (fun
      | none => (descend origin change path origin []).map (.table origin)
      | some (.table child inner) =>
        if origin = .dotted ∧ child = .header then none
        else (descend origin change path child inner).map (.table child)
      | some (.tables last others) =>
        (descend origin change path .header last).map fun last => .tables last others
      | some (.leaf _) => none) entries

/-- A key and its value. -/
structure Pair where
  path : List String
  key : String
  value : Toml

/-- Adds a pair to a table. -/
def addPair (entries : Entries) (pair : Pair) : Option Entries :=
  descend .dotted
    (fun origin inner =>
      if pair.path ≠ [] ∧ origin ≠ .dotted then none
      else
        alter pair.key (fun
          | none => some (.leaf pair.value)
          | some _ => none) inner)
    pair.path .header entries

/-- Adds pairs in their order. -/
def addPairs (pairs : List Pair) (entries : Entries) : Option Entries :=
  pairs.foldlM addPair entries

/-- A header and the pairs below it. -/
structure Section where
  /-- Whether the header is a double one. -/
  isArray : Bool
  path : List String
  key : String
  pairs : List Pair

/-- What the table of a section becomes. -/
def complete (part : Section) : Option Node → Option Node
  | none =>
    (addPairs part.pairs []).map fun entries =>
      if part.isArray then .tables entries [] else .table .header entries
  | some (.table .passed entries) =>
    if part.isArray then none else (addPairs part.pairs entries).map (.table .header)
  | some (.tables last others) =>
    if part.isArray then
      (addPairs part.pairs []).map fun entries => .tables entries (last :: others)
    else none
  | some _ => none

/-- Adds a section to a document. -/
def addSection (entries : Entries) (part : Section) : Option Entries :=
  descend .passed (fun _ inner => alter part.key (complete part) inner) part.path .header entries

mutual

/-- The value of a finished tree. -/
def Node.value : Node → Toml
  | .leaf value => value
  | .table _ entries => .table (entryValues entries)
  | .tables last others => .array (tableValues others ++ [.table (entryValues last)])

/-- The values of finished entries. -/
def entryValues : List (String × Node) → List (String × Toml)
  | [] => []
  | (key, node) :: rest => (key, node.value) :: entryValues rest

/-- The values of finished tables, the first one first. -/
def tableValues : List (List (String × Node)) → List Toml
  | [] => []
  | entries :: others => tableValues others ++ [.table (entryValues entries)]

end

/-- The table of a document: pairs, and sections below them. -/
def tableOf? (pairs : List Pair) (sections : List Section) : Option Toml := do
  let entries ← addPairs pairs []
  let entries ← sections.foldlM addSection entries
  return .table (entryValues entries)

end SyscallPolicy.Toml
