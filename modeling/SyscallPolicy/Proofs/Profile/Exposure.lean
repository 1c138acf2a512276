import SyscallPolicy.Profile.Exposure
import SyscallPolicy.Profile.Resolution

/-!
# What the findings of an audit mean

The analysis looks at all rules at once and settles no conflict between
them.  `mem_warnings_iff` says which calls it warns about, rule by rule.
Against that, `Profile.Resolution` says how a conflict may be settled, and
the two are compared here: the analysis warns about every high-risk call
that some way to settle the rules lets through.  It warns about a call
without such a way only where the default action permits and a supervisor is
asked instead.
-/

namespace SyscallPolicy

/-- An action that neither refuses a call nor lets it through hands it to a
supervisor. -/
theorem Action.eq_trace_or_eq_notify {action : Action} (hblocking : action.isBlocking = false)
    (hpermitting : action.isPermitting = false) : action = .trace ∨ action = .notify := by
  cases action <;> simp_all [isBlocking, isPermitting]

namespace Profile

variable {p : Profile} {name : String}

theorem mem_namesWhere {choose : Action → Bool} : name ∈ p.namesWhere choose ↔
    ∃ rule ∈ p.rules, choose rule.action = true ∧ name ∈ rule.names := by
  simp [namesWhere, and_assoc]

/-- A warning is about a high-risk call that the default action permits and
no rule blocks, or that a rule permits. -/
theorem mem_warnings_iff :
    name ∈ p.verify.warnings ↔ Syscall.isHighRisk name = true ∧
      (p.defaultAction.isPermitting = true ∧ name ∉ p.namesWhere Action.isBlocking ∨
        name ∈ p.namesWhere Action.isPermitting) := by
  have hdefault : name ∈ p.exposedByDefault ↔ Syscall.isHighRisk name = true ∧
      p.defaultAction.isPermitting = true ∧ name ∉ p.namesWhere Action.isBlocking := by
    unfold exposedByDefault
    split
    · rename_i hpermits
      simp [hpermits, Syscall.isHighRisk]
    · rename_i hrefuses
      simp [hrefuses]
  have hrules : name ∈ p.exposedByRules ↔ Syscall.isHighRisk name = true ∧
      name ∈ p.namesWhere Action.isPermitting := by
    rw [exposedByRules, List.mem_filter, and_comm]
  rw [verify, NameSet.mem_ofList, List.mem_append, hdefault, hrules, ← and_or_left]

/-! ## Resolutions -/

/-- Every rule that names a call is the one that counts in some resolution. -/
theorem exists_resolution_of_rule {rule : Rule} (hrule : rule ∈ p.rules)
    (hname : name ∈ rule.names) :
    ∃ resolve, p.IsResolution resolve ∧ resolve name = rule.action := by
  have hfirst := p.isResolution_firstMatch
  refine ⟨fun other => if other = name then rule.action else p.firstMatch other, ⟨?_, ?_⟩, by simp⟩
  · intro other hnamed
    split
    · rename_i heq
      exact ⟨rule, hrule, heq ▸ hname, rfl⟩
    · exact hfirst.named other hnamed
  · intro other hunnamed
    have hne : other ≠ name := fun heq => hunnamed ⟨rule, hrule, heq ▸ hname⟩
    rw [if_neg hne]
    exact hfirst.unnamed other hunnamed

theorem mem_warnings_of_resolution {resolve : String → Action} (hresolve : p.IsResolution resolve)
    (hrisk : Syscall.isHighRisk name = true) (hpermits : (resolve name).isPermitting = true) :
    name ∈ p.verify.warnings := by
  refine mem_warnings_iff.mpr ⟨hrisk, ?_⟩
  by_cases hnamed : p.IsNamed name
  · obtain ⟨rule, hrule, hmem, heq⟩ := hresolve.named name hnamed
    exact Or.inr (mem_namesWhere.mpr ⟨rule, hrule, heq ▸ hpermits, hmem⟩)
  · rw [hresolve.unnamed name hnamed] at hpermits
    refine Or.inl ⟨hpermits, fun hblocked => ?_⟩
    obtain ⟨rule, hrule, -, hmem⟩ := mem_namesWhere.mp hblocked
    exact hnamed ⟨rule, hrule, hmem⟩

/-- Whether a call is left to a supervisor: the default action permits it,
and the rules that name it, of which there is one, only trace or notify. -/
def IsSupervised (p : Profile) (name : String) : Prop :=
  p.defaultAction.isPermitting = true ∧ p.IsNamed name ∧
    ∀ rule ∈ p.rules, name ∈ rule.names → rule.action = .trace ∨ rule.action = .notify

theorem exists_resolution_of_mem_warnings (hwarned : name ∈ p.verify.warnings) :
    (∃ resolve, p.IsResolution resolve ∧ (resolve name).isPermitting = true) ∨
      p.IsSupervised name := by
  by_cases hpermitted : name ∈ p.namesWhere Action.isPermitting
  · obtain ⟨rule, hrule, hpermits, hmem⟩ := mem_namesWhere.mp hpermitted
    obtain ⟨resolve, hresolve, heq⟩ := exists_resolution_of_rule hrule hmem
    exact Or.inl ⟨resolve, hresolve, heq ▸ hpermits⟩
  · obtain ⟨hdefault, hblocked⟩ := (mem_warnings_iff.mp hwarned).2.resolve_right hpermitted
    by_cases hnamed : p.IsNamed name
    · refine Or.inr ⟨hdefault, hnamed, fun rule hrule hmem => ?_⟩
      refine Action.eq_trace_or_eq_notify (Bool.eq_false_iff.mpr fun hblocks => ?_)
        (Bool.eq_false_iff.mpr fun hpermits => ?_)
      · exact hblocked (mem_namesWhere.mpr ⟨rule, hrule, hblocks, hmem⟩)
      · exact hpermitted (mem_namesWhere.mpr ⟨rule, hrule, hpermits, hmem⟩)
    · refine Or.inl ⟨p.firstMatch, p.isResolution_firstMatch, ?_⟩
      rw [p.isResolution_firstMatch.unnamed name hnamed]
      exact hdefault

/-- No way to settle the rules of a profile lets a high-risk call through
that the analysis does not warn about, whichever rule counts: the first, the
last, the one with the most or the least restrictive action, or any other.
What it warns about is let through in some way, or left to a supervisor. -/
theorem no_exposure_missed (p : Profile) :
    (∀ resolve, p.IsResolution resolve → ∀ name, Syscall.isHighRisk name = true →
      (resolve name).isPermitting = true → name ∈ p.verify.warnings) ∧
    (∀ name ∈ p.verify.warnings, Syscall.isHighRisk name = true ∧
      ((∃ resolve, p.IsResolution resolve ∧ (resolve name).isPermitting = true) ∨
        p.IsSupervised name)) ∧
    p.IsResolution p.firstMatch ∧ p.IsResolution p.lastMatch ∧
      ∀ rank, p.IsResolution (p.highestMatch rank) := by
  refine ⟨fun resolve hresolve name hrisk hpermits => ?_, fun name hwarned => ?_,
    p.isResolution_firstMatch, p.isResolution_lastMatch, fun rank => ?_⟩
  · exact mem_warnings_of_resolution hresolve hrisk hpermits
  · exact ⟨(mem_warnings_iff.mp hwarned).1, exists_resolution_of_mem_warnings hwarned⟩
  · exact isResolution_highestMatch rank p

/-- A call that is refused first and allowed last is warned about, and so is
one that is only traced under a permitting default. -/
theorem exposure_of_ptrace_and_mount :
    let p := Profile.mk .log []
      [⟨["ptrace", "bpf"], .errno⟩, ⟨["ptrace"], .allow⟩, ⟨["mount"], .trace⟩]
    "ptrace" ∈ p.verify.warnings ∧ Syscall.isHighRisk "mount" = true ∧
      ((∃ resolve, p.IsResolution resolve ∧ (resolve "mount").isPermitting = true) ∨
        p.IsSupervised "mount") := by
  intro p
  refine ⟨?_, ?_⟩
  · exact (no_exposure_missed p).1 p.lastMatch p.isResolution_lastMatch "ptrace"
      (by decide +kernel) (by decide +kernel)
  · exact (no_exposure_missed p).2.1 "mount" (by decide +kernel)

end Profile

end SyscallPolicy
