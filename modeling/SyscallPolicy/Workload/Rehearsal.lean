import SyscallPolicy.Profile.Basic
import SyscallPolicy.Workload.Outcome

/-!
# Rehearsed workloads

A workload can be described instead of run: by what happens without a profile, and by
cases for a run under one, of which the first that fits decides.  A case looks only at
the names that the rules of the profile mention.
-/

namespace SyscallPolicy.Workload

/-- What happens when certain names are, or are not, mentioned. -/
structure RehearsedCase where
  /-- At least one of these is not mentioned; no names are no condition. -/
  missingAny : List String
  /-- All of these are mentioned. -/
  presentAll : List String
  outcome : Outcome

/-- A described workload. -/
structure Rehearsal where
  /-- What happens without a profile. -/
  unconstrained : Outcome
  table : List RehearsedCase
  /-- What happens when no case fits. -/
  otherwise : Outcome

namespace Rehearsal

/-- Whether a case fits the mentioned names. -/
def fits (names : List String) (c : RehearsedCase) : Bool :=
  (c.missingAny.isEmpty || c.missingAny.any fun name => !names.contains name) &&
    c.presentAll.all names.contains

/-- What a run comes to. -/
def run (r : Rehearsal) : Option Profile → Outcome
  | none => r.unconstrained
  | some p =>
    match r.table.find? (fits p.allNames) with
    | some c => c.outcome
    | none => r.otherwise

end Rehearsal

end SyscallPolicy.Workload
