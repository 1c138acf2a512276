import Mathlib.Data.Set.Card
import SyscallPolicy.Proofs.NameSet
import SyscallPolicy.Proofs.Profile.Exposure

/-!
# The findings of an audit

`IsExposed` says of one call what it is to be exposed, with a look at single
rules only.  The analysis goes over the rules twice and joins what it finds;
its warnings are the one list in byte order that has the exposed calls and no
others (`warnings_eq_iff`), however the catalog and the rules list them, and
its status counts them (`status_eq`).
-/

namespace SyscallPolicy

namespace Profile

variable {p : Profile} {name : String} {names : List String}

/-- Whether a profile exposes a high-risk call: some rule permits it, or the
default action does and no rule blocks it. -/
def IsExposed (p : Profile) (name : String) : Prop :=
  name ∈ Syscall.highRisk ∧
    ((∃ rule ∈ p.rules, rule.action.isPermitting = true ∧ name ∈ rule.names) ∨
      p.defaultAction.isPermitting = true ∧
        ∀ rule ∈ p.rules, rule.action.isBlocking = true → name ∉ rule.names)

theorem not_mem_namesWhere {choose : Action → Bool} : name ∉ p.namesWhere choose ↔
    ∀ rule ∈ p.rules, choose rule.action = true → name ∉ rule.names := by
  simp only [mem_namesWhere, not_exists, not_and]

theorem mem_warnings_iff_isExposed : name ∈ p.verify.warnings ↔ p.IsExposed name := by
  have hrisk : Syscall.isHighRisk name = true ↔ name ∈ Syscall.highRisk :=
    List.contains_iff_mem
  rw [mem_warnings_iff, hrisk, not_mem_namesWhere, mem_namesWhere, or_comm, IsExposed]

theorem isCanonical_warnings (p : Profile) : IsCanonical p.verify.warnings :=
  NameSet.isCanonical_ofList _

theorem warnings_eq_iff : p.verify.warnings = names ↔
    IsCanonical names ∧ ∀ name, name ∈ names ↔ p.IsExposed name := by
  simp only [← mem_warnings_iff_isExposed]
  refine ⟨?_, fun ⟨hnames, hmem⟩ => ?_⟩
  · rintro rfl
    exact ⟨p.isCanonical_warnings, fun name => Iff.rfl⟩
  · exact p.isCanonical_warnings.eq_of_mem_iff hnames fun name => (hmem name).symm

/-- Audits that warn about the same calls are the same. -/
theorem verify_eq_of_mem_iff {q : Profile}
    (hmem : ∀ name, name ∈ p.verify.warnings ↔ name ∈ q.verify.warnings) : p.verify = q.verify :=
  congrArg Verification.mk (p.isCanonical_warnings.eq_of_mem_iff q.isCanonical_warnings hmem)

/-! ## Counting -/

theorem ncard_isExposed (p : Profile) :
    {name | p.IsExposed name}.ncard = p.verify.warnings.length := by
  have hset : {name | p.IsExposed name} = (p.verify.warnings.toFinset : Set String) := by
    ext name
    rw [Set.mem_ofPred_eq, Finset.mem_coe, List.mem_toFinset, mem_warnings_iff_isExposed]
  rw [hset, Set.ncard_coe_finset, List.toFinset_card_of_nodup p.isCanonical_warnings.nodup]

theorem warnings_eq_nil_iff : p.verify.warnings = [] ↔ ∀ name, ¬p.IsExposed name := by
  simp only [List.eq_nil_iff_forall_not_mem, mem_warnings_iff_isExposed]

theorem status_eq (p : Profile) : p.verify.status =
    if p.verify.warnings = [] then .ok ()
    else .error (.highRiskAllowed {name | p.IsExposed name}.ncard) := by
  rw [Verification.status, ncard_isExposed]
  simp only [List.isEmpty_iff]

/-- The warnings are the exposed calls in increasing order of their bytes, and
there is only one such list.  The audit passes if nothing is exposed, and
else fails with the number of exposed calls. -/
theorem findings_exact (p : Profile) :
    (∀ name, name ∈ p.verify.warnings ↔ p.IsExposed name) ∧
    (p.verify.warnings.Pairwise fun name other => name.toUTF8.toList < other.toUTF8.toList) ∧
    (∀ names : List String,
      (names.Pairwise fun name other => name.toUTF8.toList < other.toUTF8.toList) →
        (∀ name, name ∈ names ↔ p.IsExposed name) → names = p.verify.warnings) ∧
    (p.verify.status = .ok () ↔ ∀ name, ¬p.IsExposed name) ∧
    ∀ failure, p.verify.status = .error failure ↔
      (∃ name, p.IsExposed name) ∧
        failure = .highRiskAllowed {name | p.IsExposed name}.ncard := by
  refine ⟨fun name => mem_warnings_iff_isExposed,
    isCanonical_iff_pairwise_toUTF8.mp p.isCanonical_warnings, fun names hnames hmem => ?unique,
    ?passes, fun failure => ?fails⟩
  case unique =>
    exact (warnings_eq_iff.mpr ⟨isCanonical_iff_pairwise_toUTF8.mpr hnames, hmem⟩).symm
  case passes =>
    rw [status_eq, ← warnings_eq_nil_iff, ite_eq_left_iff]
    simp
  case fails =>
    rw [status_eq, ← not_forall_not, ← warnings_eq_nil_iff]
    by_cases hclean : p.verify.warnings = []
    · simp [hclean]
    · rw [if_neg hclean, Except.error.injEq, eq_comm, and_iff_right hclean]

/-- Rules that name calls again and disagree about them, under a default
action that refuses. -/
theorem findings_of_overlapping_rules : ∃ p : Profile,
    p = ⟨.errno, [.x86_64], [⟨["ptrace", "read", "mount", "ptrace"], .log⟩, ⟨["mount"], .kill⟩,
      ⟨["reboot"], .notify⟩, ⟨["bpf", "mount"], .allow⟩]⟩ ∧
    (∀ name, name ∈ ["bpf", "mount", "ptrace"] ↔ p.IsExposed name) ∧
    ["bpf", "mount", "ptrace"] = p.verify.warnings ∧
    p.verify.status = .error (.highRiskAllowed 3) ∧ {name | p.IsExposed name}.ncard = 3 := by
  obtain ⟨p, hp⟩ : ∃ p : Profile, p = ⟨.errno, [.x86_64],
      [⟨["ptrace", "read", "mount", "ptrace"], .log⟩, ⟨["mount"], .kill⟩,
        ⟨["reboot"], .notify⟩, ⟨["bpf", "mount"], .allow⟩]⟩ := ⟨_, rfl⟩
  have hwarnings : p.verify.warnings = ["bpf", "mount", "ptrace"] := by
    rw [hp]
    decide +kernel
  have hstatus : p.verify.status = .error (.highRiskAllowed 3) := by
    rw [Verification.status, hwarnings]
    rfl
  have hexposed : ∀ name, name ∈ ["bpf", "mount", "ptrace"] ↔ p.IsExposed name := by
    intro name
    rw [← hwarnings]
    exact (findings_exact p).1 name
  have hordered : ["bpf", "mount", "ptrace"].Pairwise
      fun name other => name.toUTF8.toList < other.toUTF8.toList := by
    decide +kernel
  obtain ⟨-, -, hunique, -, hfails⟩ := findings_exact p
  have hcount := ((hfails _).mp hstatus).2
  exact ⟨p, hp, hexposed, hunique _ hordered hexposed, hstatus,
    (Failure.highRiskAllowed.inj hcount).symm⟩

end Profile

end SyscallPolicy
