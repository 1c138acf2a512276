import SyscallPolicy.Elimination.Search

/-!
# Workloads that only need calls

Most workloads do not look at a policy: what becomes of them under an allow list hangs on
the set of names in it, and one that works keeps working when more is allowed.  For such a
workload one may ask which sets of calls are sufficient, and compare what a search finds
with all of them.
-/

namespace SyscallPolicy

/-- Whether a profile refuses all calls but those that its rules allow. -/
def Profile.IsAllowList (p : Profile) : Prop :=
  p.defaultAction = .errno ∧ ∀ rule ∈ p.rules, rule.action = .allow

namespace Elimination

/-- Whether a workload runs without a profile, and every run of it can be judged. -/
structure Runner.IsSound (runner : Runner) : Prop where
  unconstrained : runner none = .ok ()
  judged : ∀ p failure, runner (some p) = .error failure → failure.isHarnessFault = false

/-- Whether the outcome under an allow list hangs on the set of its names alone. -/
structure Runner.IsExtensional (runner : Runner) : Prop extends runner.IsSound where
  congr : ∀ p q : Profile, p.IsAllowList → q.IsAllowList →
    (∀ name, name ∈ p.allNames ↔ name ∈ q.allNames) → runner (some p) = runner (some q)

/-- Whether a workload that succeeds under an allow list succeeds under every larger one. -/
structure Runner.IsMonotone (runner : Runner) : Prop extends runner.IsSound where
  mono : ∀ p q : Profile, p.IsAllowList → q.IsAllowList → p.allNames ⊆ q.allNames →
    runner (some p) = .ok () → runner (some q) = .ok ()

/-- The workload that can do its work in each of these ways, and needs all calls of a way
for it. -/
def workingIn (ways : List (List String)) : Runner
  | none => .ok ()
  | some p => if ∃ way ∈ ways, ∀ name ∈ way, name ∈ p.allNames then .ok () else .error (.exited 1)

theorem workingIn_eq_ok_iff {ways : List (List String)} {p : Profile} :
    workingIn ways (some p) = .ok () ↔ ∃ way ∈ ways, way ⊆ p.allNames := by
  rw [workingIn]
  split
  · exact iff_of_true rfl ‹_›
  · exact iff_of_false (by simp) ‹_›

theorem isMonotone_workingIn (ways : List (List String)) : (workingIn ways).IsMonotone where
  unconstrained := rfl
  judged p failure h := by
    rw [workingIn] at h
    split at h
    · cases h
    · cases h
      rfl
  mono p q _ _ hsub h := by
    obtain ⟨way, hway, hallowed⟩ := workingIn_eq_ok_iff.mp h
    exact workingIn_eq_ok_iff.mpr ⟨way, hway, List.Subset.trans hallowed hsub⟩

/-- The plain allow list of some names. -/
def allowing (names : List String) : Profile :=
  ⟨.errno, [], [.allow names]⟩

/-- Whether allowing these names is enough, among the sets that hold the essential calls
and nothing but those and the candidates. -/
structure IsSufficient (runner : Runner) (u : Universe) (names : List String) : Prop where
  essential : Syscall.essential ⊆ names
  within : names ⊆ u.names ++ Syscall.essential
  succeeds : runner (some (allowing names)) = .ok ()

/-- Whether these calls are enough, and no sufficient set does without one of them. -/
structure IsLeastSufficient (runner : Runner) (u : Universe) (names : List String) : Prop extends
    IsSufficient runner u names where
  least : ∀ other, IsSufficient runner u other → names ⊆ other

end Elimination

end SyscallPolicy
