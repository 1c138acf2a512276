import SyscallPolicy.Failure
import SyscallPolicy.NameSet
import SyscallPolicy.Profile.Basic
import SyscallPolicy.Syscall.Catalog

/-!
# Exposure of high-risk calls

A profile exposes a high-risk call when its default action permits the call and no
blocking rule names it, or when a permitting rule names it, whatever the default is.
Rules that hand the call to a supervisor neither expose nor block it.
-/

namespace SyscallPolicy

namespace Profile

/-- The names in the rules whose action satisfies `choose`. -/
def namesWhere (p : Profile) (choose : Action → Bool) : List String :=
  (p.rules.filter fun rule => choose rule.action).flatMap (·.names)

/-- The high-risk calls that pass because no rule blocks them. -/
def exposedByDefault (p : Profile) : List String :=
  if p.defaultAction.isPermitting then
    Syscall.highRisk.filter fun name => !(p.namesWhere Action.isBlocking).contains name
  else []

/-- The high-risk calls that a rule permits. -/
def exposedByRules (p : Profile) : List String :=
  (p.namesWhere Action.isPermitting).filter Syscall.isHighRisk

end Profile

/-- The findings of an audit: the exposed calls, each once, in increasing order. -/
structure Verification where
  warnings : List String
  deriving DecidableEq, Repr

namespace Verification

/-- Whether nothing is exposed. -/
def isClean (v : Verification) : Bool :=
  v.warnings.isEmpty

/-- An audit fails when it has any finding, and tells how many. -/
def status (v : Verification) : Except Failure Unit :=
  if v.warnings.isEmpty then .ok () else .error (.highRiskAllowed v.warnings.length)

end Verification

/-- The exposure analysis of a profile. -/
def Profile.verify (p : Profile) : Verification :=
  ⟨NameSet.ofList (p.exposedByDefault ++ p.exposedByRules)⟩

end SyscallPolicy
