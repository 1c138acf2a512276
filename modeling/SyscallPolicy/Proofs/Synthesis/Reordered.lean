import SyscallPolicy.Proofs.AuditLog.FirstQuery
import SyscallPolicy.Proofs.Synthesis.Canonical

/-!
# Policies of reordered logs

A log is scanned in order, and each number counts where it comes first.  The
profile that is made from it keeps none of this: whether the scan fails and
which calls it finds are up to the set of the lines, and a profile names its
calls as a canonical set (`synthesize_discovery_congr`).
-/

namespace SyscallPolicy

open AuditLog (HasObstacle IsUnsupported discovery isSearchable namesIn)

variable {settings : SynthesisSettings} {pids : List Int} {lines : List Line}

/-! ## One log -/

namespace Synthesizer

/-- A synthesizer that is about to read a log of these lines. -/
def ofLines (settings : SynthesisSettings) (pids : List Int) (lines : List Line) :
    Synthesizer AuditLog :=
  ⟨.ofStream (.ofLines lines) pids, settings⟩

theorem profile_ofLines : (ofLines settings pids lines).profile.1 =
    (AuditLog.ofStream (.ofLines lines) pids).query.1.map (synthesize settings) :=
  profile_answer _

theorem unread_ofLines (hlines : ∀ line ∈ lines, line.IsWhole) :
    (AuditLog.ofStream (.ofLines lines) pids).unread = lines :=
  ByteStream.lines_ofLines hlines

theorem profile_of_not_isSearchable (hpids : isSearchable pids = false) :
    (ofLines settings pids lines).profile.1 = .ok (synthesize settings none) := by
  rw [profile_ofLines, AuditLog.query_of_not_isSearchable hpids]
  rfl

theorem profile_of_hasObstacle (hlines : ∀ line ∈ lines, line.IsWhole)
    (hpids : isSearchable pids = true) (hobstacle : HasObstacle pids lines) :
    IsUnsupported (ofLines settings pids lines).profile.1 := by
  have hquery := @AuditLog.isUnsupported_query_iff (.ofStream (.ofLines lines) pids) hpids
  rw [unread_ofLines hlines] at hquery
  obtain ⟨id, hanswer⟩ := hquery.mpr hobstacle
  rw [profile_ofLines, hanswer]
  exact ⟨id, rfl⟩

theorem profile_of_clear (hlines : ∀ line ∈ lines, line.IsWhole)
    (hpids : isSearchable pids = true) (hclear : ¬HasObstacle pids lines) :
    (ofLines settings pids lines).profile.1 =
      .ok (synthesize settings (discovery (namesIn pids [] lines))) := by
  have hquery := @AuditLog.query_of_clear (.ofStream (.ofLines lines) pids) hpids
  rw [unread_ofLines hlines] at hquery
  rw [profile_ofLines, hquery hclear]
  rfl

end Synthesizer

/-! ## Two logs with the same lines -/

theorem synthesizedRules_discovery (names : List String) :
    synthesizedRules (discovery names) = synthesizedRules (some (.allow names)) := by
  cases names <;> rfl

/-- The names that are discovered count as a set. -/
theorem synthesize_discovery_congr {names found : List String}
    (hnames : ∀ name, name ∈ names ↔ name ∈ found) :
    synthesize settings (discovery names) = synthesize settings (discovery found) := by
  have hrules : synthesizedRules (discovery names) = synthesizedRules (discovery found) := by
    rw [synthesizedRules_discovery, synthesizedRules_discovery]
    exact synthesizedRules_congr rfl hnames
  rw [synthesize_eq, synthesize_eq, hrules]

end SyscallPolicy
