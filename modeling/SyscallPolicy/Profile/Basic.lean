import SyscallPolicy.Action
import SyscallPolicy.Architecture

/-!
# Profiles

A profile is a policy for system calls: an action for every call that no rule names,
and rules that give one action to a list of names.
-/

namespace SyscallPolicy

/-- One action for several calls. -/
structure Rule where
  names : List String
  action : Action
  deriving DecidableEq, Repr

/-- A rule that lets the named calls through. -/
def Rule.allow (names : List String) : Rule :=
  ⟨names, .allow⟩

/-- A policy for system calls. -/
structure Profile where
  /-- What happens to a call that no rule names. -/
  defaultAction : Action
  /-- Where the policy applies. -/
  architectures : List Architecture
  rules : List Rule
  deriving DecidableEq, Repr

namespace Profile

/-- All names that rules mention. -/
def allNames (p : Profile) : List String :=
  p.rules.flatMap (·.names)

end Profile

end SyscallPolicy
