import SyscallPolicy.NameSet
import SyscallPolicy.Source

/-!
# Synthesis of profiles

A synthesizer turns what its source discovers into a profile that refuses whatever was
not discovered.  The rule of the profile names each call once, in increasing order.  A
discovery that names nothing is like no discovery: it gives a profile without a rule or,
if the settings say so, no profile.
-/

namespace SyscallPolicy

/-- The rule with its names as a canonical set. -/
def Rule.canonical (rule : Rule) : Rule :=
  { rule with names := NameSet.ofList rule.names }

/-- The rules of a synthesized profile: one, or none if nothing was named. -/
def synthesizedRules : Option Rule → List Rule
  | none => []
  | some rule => if rule.names.isEmpty then [] else [rule.canonical]

/-- The profile for what was discovered. -/
def synthesize (settings : SynthesisSettings) (discovered : Option Rule) : Option Profile :=
  match synthesizedRules discovered with
  | [] =>
    if settings.nilForNoCalls then none
    else some ⟨.errno, Architecture.ofTargets settings.targets, []⟩
  | rules => some ⟨.errno, Architecture.ofTargets settings.targets, rules⟩

/-- A source, and how its discoveries become profiles. -/
structure Synthesizer (σ : Type) where
  source : σ
  settings : SynthesisSettings

namespace Synthesizer

variable {σ : Type}

/-- Sets the targets. -/
def withTargets (s : Synthesizer σ) (targets : List String) : Synthesizer σ :=
  { s with settings := { s.settings with targets } }

/-- Sets whether finding nothing means no profile. -/
def withNilForNoCalls (s : Synthesizer σ) (enabled : Bool) : Synthesizer σ :=
  { s with settings := { s.settings with nilForNoCalls := enabled } }

/-- Queries the source without making a profile. -/
def query [DiscoverySource σ] (s : Synthesizer σ) : Discovery × Synthesizer σ :=
  match DiscoverySource.query s.source with
  | (answer, source) => (answer, { s with source })

/-- Queries the source once and makes the profile; a failure of the source is passed on. -/
def profile [DiscoverySource σ] (s : Synthesizer σ) :
    Except Failure (Option Profile) × Synthesizer σ :=
  match s.query with
  | (answer, s) => (answer.map (synthesize s.settings), s)

end Synthesizer

end SyscallPolicy
