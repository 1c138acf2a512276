import SyscallPolicy.Proofs.NameSet
import SyscallPolicy.Synthesis

/-!
# What a synthesized profile depends on

A profile names its calls as a canonical set, and a canonical set is known
by its members.  So of a discovery only the action and the set of its names
come into the profile, not their order and not how often each is named.

* `synthesize_eq` and `mem_synthesizedRules_iff` open a synthesis once and
  for all;
* `synthesizedRules_congr` and `synthesize_congr`: rules with the same action
  and the same names are synthesized alike.
-/

namespace SyscallPolicy

variable {rule other : Rule} {discovered : Option Rule}

/-- The rule of a synthesized profile is the discovered one, if that names
anything. -/
theorem mem_synthesizedRules_iff : other ∈ synthesizedRules discovered ↔
    ∃ rule, discovered = some rule ∧ rule.names ≠ [] ∧ other = rule.canonical := by
  cases discovered with
  | none => simp [synthesizedRules]
  | some rule => by_cases hnames : rule.names = [] <;> simp [synthesizedRules, hnames]

theorem synthesizedRules_congr (haction : rule.action = other.action)
    (hnames : ∀ name, name ∈ rule.names ↔ name ∈ other.names) :
    synthesizedRules (some rule) = synthesizedRules (some other) := by
  have hempty : rule.names.isEmpty = other.names.isEmpty := by
    rw [Bool.eq_iff_iff, List.isEmpty_iff, List.isEmpty_iff]
    simp only [List.eq_nil_iff_forall_not_mem, hnames]
  have hcanonical : rule.canonical = other.canonical := by
    rw [Rule.canonical, Rule.canonical, NameSet.ofList_eq_ofList_iff.mpr hnames, haction]
  rw [synthesizedRules, synthesizedRules, hempty, hcanonical]

/-- All that a discovery gives to its profile are the rules. -/
theorem synthesize_eq (settings : SynthesisSettings) (discovered : Option Rule) :
    synthesize settings discovered =
      if synthesizedRules discovered = [] ∧ settings.nilForNoCalls = true then none
      else some ⟨.errno, Architecture.ofTargets settings.targets, synthesizedRules discovered⟩ := by
  unfold synthesize
  cases synthesizedRules discovered with
  | nil => by_cases hnil : settings.nilForNoCalls = true <;> simp [hnil]
  | cons rule rules => simp

theorem synthesize_congr (settings : SynthesisSettings) (haction : rule.action = other.action)
    (hnames : ∀ name, name ∈ rule.names ↔ name ∈ other.names) :
    synthesize settings (some rule) = synthesize settings (some other) := by
  rw [synthesize_eq, synthesize_eq, synthesizedRules_congr haction hnames]

theorem eq_of_synthesize {settings : SynthesisSettings} {p : Profile}
    (hprofile : synthesize settings discovered = some p) :
    p = ⟨.errno, Architecture.ofTargets settings.targets, synthesizedRules discovered⟩ := by
  rw [synthesize_eq, Option.ite_none_left_eq_some] at hprofile
  exact (Option.some.inj hprofile.2).symm

/-- A profile is made from one answer of the source. -/
theorem Synthesizer.profile_answer {σ : Type} [DiscoverySource σ] (s : Synthesizer σ) :
    s.profile.1 = (DiscoverySource.query s.source).1.map (synthesize s.settings) :=
  rfl

end SyscallPolicy
