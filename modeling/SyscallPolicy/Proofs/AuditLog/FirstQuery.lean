import SyscallPolicy.Proofs.AuditLog.Queries

/-!
# What the first query answers

The first query fails if any line is an obstacle, and else it answers with the
calls of all lines (`isUnsupported_query_iff`, `query_of_clear`).  So only the
set of the lines counts (`hasObstacle_congr`, `mem_namesIn_congr`), except for
the number it fails at and the order of the calls.
-/

namespace SyscallPolicy.AuditLog

variable {log : AuditLog} {pids : List Int} {lines others : List Line}

/-- Whether an answer fails at a number that no call has. -/
def IsUnsupported {α : Type} (answer : Except Failure α) : Prop :=
  ∃ id, answer = .error (.unsupportedSyscall id)

/-- Whether a line records a number that no call has. -/
def HasObstacle (pids : List Int) (lines : List Line) : Prop :=
  ∃ line ∈ lines, ∃ id, lineId? pids line = some id ∧ Syscall.nameOf? id = none

theorem isSearchable_iff : isSearchable pids = true ↔ pids ≠ [] ∧ ∀ pid ∈ pids, 0 ≤ pid := by
  simp [isSearchable]

theorem not_hasObstacle_iff :
    ¬HasObstacle pids lines ↔ ∀ line ∈ lines, obstacle? pids line = none := by
  simp only [HasObstacle, ← obstacle?_eq_some_iff, ← Option.ne_none_iff_exists', not_exists,
    not_and, not_not]

theorem query_of_not_isSearchable (hpids : isSearchable log.pids = false) :
    log.query.1 = .ok none := by
  rw [query, if_neg (by simp [hpids])]

theorem query_of_clear (hpids : isSearchable log.pids = true)
    (hclear : ¬HasObstacle log.pids log.unread) : log.query.1 =
      match log.fault with
      | some reason => .error (.io reason)
      | none => .ok (discovery (namesIn log.pids [] log.unread)) := by
  rw [query_eq hpids, answerAt_of_clear (not_hasObstacle_iff.mp hclear)]
  rfl

theorem isUnsupported_query_iff (hpids : isSearchable log.pids = true) :
    IsUnsupported log.query.1 ↔ HasObstacle log.pids log.unread := by
  by_cases hobstacle : HasObstacle log.pids log.unread
  · refine iff_of_true ?_ hobstacle
    obtain ⟨unread, fault, pids⟩ := log
    rcases clear_or_exists_obstacle pids unread with
      hclear | ⟨before, line, after, id, rfl, hbefore, hline⟩
    · exact absurd hobstacle (not_hasObstacle_iff.mpr hclear)
    · rw [query_eq hpids, answerAt, obstacles_of_obstacle hbefore hline]
      exact ⟨id, rfl⟩
  · refine iff_of_false ?_ hobstacle
    rw [query_of_clear hpids hobstacle]
    rintro ⟨id, hanswer⟩
    cases hfault : log.fault <;> rw [hfault] at hanswer <;> cases hanswer

/-! ## The set of the lines -/

theorem hasObstacle_congr (hsame : ∀ line, line ∈ lines ↔ line ∈ others) :
    HasObstacle pids lines ↔ HasObstacle pids others := by
  simp only [HasObstacle, hsame]

theorem mem_namesIn_congr (hsame : ∀ line, line ∈ lines ↔ line ∈ others) (name : String) :
    name ∈ namesIn pids [] lines ↔ name ∈ namesIn pids [] others := by
  simp only [mem_namesIn_iff, hsame]

end SyscallPolicy.AuditLog
