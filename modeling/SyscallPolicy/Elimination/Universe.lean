import SyscallPolicy.FirstOccurrences
import SyscallPolicy.Profile.Basic
import SyscallPolicy.Syscall.Catalog

/-!
# The universe of a search

A search by elimination takes its candidates from a list of distinct names.  Essential
calls are never withheld: the candidates among them are allowed in every trial, and so
are those that the universe does not name.  The search itself works on places in the
list; names come back in when it reports.
-/

namespace SyscallPolicy

/-- The names without one of them. -/
def exclude (names : List String) (item : String) : List String :=
  names.filter (· != item)

namespace Elimination

/-- Distinct candidates, in the order in which they are probed. -/
structure Universe where
  names : List String
  nodup : names.Nodup

namespace Universe

/-- The universe of the names in a list; a repeated name counts where it stands first. -/
def ofList (names : List String) : Universe :=
  ⟨names.eraseDups, nodup_eraseDups names⟩

theorem mem_ofList {name : String} {names : List String} :
    name ∈ (ofList names).names ↔ name ∈ names :=
  List.mem_eraseDups

/-- A place in the universe, which stands for the candidate there. -/
abbrev Place (u : Universe) := Fin u.names.length

/-- The candidate at a place. -/
def nameAt (u : Universe) (place : u.Place) : String :=
  u.names[place]

/-- The places of the candidates that are probed, in order. -/
def probes (u : Universe) : List u.Place :=
  (List.finRange u.names.length).filter fun place => !Syscall.isEssential (u.nameAt place)

/-- The essential calls that the universe does not name. -/
def missingEssentials (u : Universe) : List String :=
  Syscall.essential.filter fun name => !u.names.contains name

/-- What the trial allows that withholds one call. -/
def trialNames (u : Universe) (withheld : String) : List String :=
  exclude u.names withheld ++ u.missingEssentials

/-- The trial that withholds one call: it and whatever the universe does not name, the
essential calls apart, are refused. -/
def trial (u : Universe) (withheld : String) : Profile :=
  ⟨.errno, [], [.allow (u.trialNames withheld)]⟩

/-- What a search reports when the candidates at these places turned out to be required. -/
def reported (u : Universe) (required : List u.Place) : List String :=
  ((List.finRange u.names.length).filter fun place =>
    Syscall.isEssential (u.nameAt place) || required.contains place).map u.nameAt ++
    u.missingEssentials

end Universe

end Elimination

end SyscallPolicy
