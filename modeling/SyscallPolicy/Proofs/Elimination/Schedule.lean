import SyscallPolicy.Elimination.Monotone
import SyscallPolicy.Proofs.Elimination.Places
import SyscallPolicy.Proofs.Elimination.Progress

/-!
# Discoveries do not depend on the schedule

A pool of workers may make its steps in any interleaving.  When every trial
can be judged, all of them lead to the same answer, which is also the answer
of the trials made one after the other.  When some trial cannot be judged,
the answer is a fault, and it is the fault of a trial that was made.

`mayReport_cases` opens a report once and for all: it is the answer behind a
failed run without a profile, or it comes from a complete run of the pool,
of which the invariant holds.
-/

namespace SyscallPolicy.Elimination

open Workload (RunFailure)

variable {runner : Runner} {u : Universe} {workers : Nat} {sight : Sight} {report : Report}

/-! ## Reports of complete runs -/

/-- A report behind a successful run without a profile comes from a complete
run of the pool. -/
theorem mayReport_cases (hreport : MayReport runner u workers sight report)
    (hrun : runner none = .ok ()) :
    ∃ p : Pool u.Place, PoolInvariant (probe runner u) u.probes p ∧ p.IsComplete ∧
      p.workers.length = workers ∧
      report = ⟨runsOf u p.board.started, answerOf u p.board.result⟩ := by
  cases hreport with
  | aborted fails => simp [hrun] at fails
  | completed _ run complete =>
    refine ⟨_, poolInvariant_of_reaches run, complete, ?_, rfl⟩
    rw [Pool.length_workers_of_reaches run]
    exact List.length_replicate

theorem exists_mayReport (u : Universe) (workers : Nat) (sight : Sight)
    (hrun : runner none = .ok ()) : ∃ report, MayReport runner u workers sight report := by
  obtain ⟨p, hreaches, hcomplete⟩ :=
    Pool.exists_complete (probe runner u) sight (.start u.probes workers)
  exact ⟨_, .completed hrun hreaches hcomplete⟩

/-- The answer of any discovery without faults. -/
theorem answer_of_judged (hrun : runner none = .ok ())
    (hjudged : ∀ place ∈ u.probes, ∀ fault, probe runner u place ≠ .error fault)
    (hworkers : 0 < workers) (hreport : MayReport runner u workers sight report) :
    report.answer = .ok (some (.allow (discovered runner u))) := by
  obtain ⟨p, hinv, hcomplete, hlength, rfl⟩ := mayReport_cases hreport hrun
  have hsome : p.workers ≠ [] := List.ne_nil_of_length_pos (hlength ▸ hworkers)
  have hresult : p.board.result = .ok p.board.required := by
    rw [Board.result, hinv.fault_eq_none hjudged]
  rw [hresult]
  exact answerOf_ok fun place hplace => hinv.mem_required_iff hjudged hcomplete hsome hplace

section Judged

variable (hsound : runner.IsSound)
include hsound

theorem probe_ne_error (place : u.Place) (fault : RunFailure) :
    probe runner u place ≠ .error fault := by
  intro hprobe
  obtain ⟨hfails, hfault⟩ := isRequired_eq_error_iff.mp hprobe
  simp [hsound.judged _ fault hfails] at hfault

/-- The answer of any discovery of a workload that can be judged. -/
theorem answer_of_isSound (hworkers : 0 < workers)
    (hreport : MayReport runner u workers sight report) :
    report.answer = .ok (some (.allow (discovered runner u))) :=
  answer_of_judged hsound.unconstrained (fun place _ => probe_ne_error hsound place) hworkers
    hreport

/-- The trials of a complete run without faults are the candidates that are
probed, each of them once. -/
theorem started_count_of_isSound {p : Pool u.Place} (hworkers : 0 < workers)
    (hreaches : Pool.Reaches (probe runner u) sight (.start u.probes workers) p)
    (hcomplete : p.IsComplete) (place : u.Place) :
    p.board.started.count place = u.probes.count place := by
  have hinv := poolInvariant_of_reaches hreaches
  have hsome : p.workers ≠ [] := by
    apply List.ne_nil_of_length_pos
    rw [Pool.length_workers_of_reaches hreaches]
    simpa [Pool.start] using hworkers
  exact hinv.started_count hcomplete hsome
    (hinv.stop_eq_false fun place _ => probe_ne_error hsound place) place

end Judged

/-! ## The answer of all schedules -/

/-- Every schedule of every number of workers gives the same answer, by the
same trials: each candidate that is not essential is withheld once, and no
essential call ever is.  No schedule runs into a dead end. -/
theorem discovery_schedule_independent (runner : Runner) (u : Universe) (workers : Nat)
    (sight : Sight) (hsound : runner.IsSound) (hworkers : 0 < workers) :
    (∀ p, Pool.Reaches (probe runner u) sight (.start u.probes workers) p →
      (∃ q, Pool.Reaches (probe runner u) sight p q ∧ q.IsComplete) ∧
      (p.IsComplete → ∀ place, p.board.started.count place =
        if Syscall.isEssential (u.nameAt place) then 0 else 1)) ∧
    (∃ report, MayReport runner u workers sight report) ∧
    ∀ report, MayReport runner u workers sight report →
      report.answer = .ok (some (.allow (discovered runner u))) ∧
      ∀ parallel, report.answer = (Search.mk runner u parallel).discover.answer := by
  refine ⟨fun p hreaches => ⟨Pool.exists_complete _ sight p, ?_⟩, ?_, ?_⟩
  · intro hcomplete place
    rw [started_count_of_isSound hsound hworkers hreaches hcomplete place]
    exact Universe.count_probes place
  · exact exists_mayReport u workers sight hsound.unconstrained
  · intro report hreport
    have hanswer := answer_of_isSound hsound hworkers hreport
    refine ⟨hanswer, fun parallel => ?_⟩
    rw [hanswer]
    exact (discover_answer ⟨runner, u, parallel⟩ hsound.unconstrained fun place _ =>
      probe_ne_error hsound place).symm

/-- Two calls are needed, one essential call stands in the universe and four
do not; three workers share the trials. -/
theorem discovery_of_read_and_write :
    (workingIn [["write", "read"]]).IsSound ∧ 0 < 3 ∧
      (∃ report, MayReport (workingIn [["write", "read"]])
        (.ofList ["futex", "write", "mmap", "read", "write"]) 3 .stale report) ∧
      ∀ report, MayReport (workingIn [["write", "read"]])
          (.ofList ["futex", "write", "mmap", "read", "write"]) 3 .stale report →
        report.answer = .ok (some (.allow
          ["futex", "write", "read", "close", "exit", "exit_group", "execve"])) := by
  have hsound := (isMonotone_workingIn [["write", "read"]]).toIsSound
  obtain ⟨-, hexists, hanswer⟩ := discovery_schedule_independent (workingIn [["write", "read"]])
    (.ofList ["futex", "write", "mmap", "read", "write"]) 3 .stale hsound (by decide)
  refine ⟨hsound, by decide, hexists, fun report hreport => ?_⟩
  have hfound : discovered (workingIn [["write", "read"]])
      (.ofList ["futex", "write", "mmap", "read", "write"]) =
        ["futex", "write", "read", "close", "exit", "exit_group", "execve"] := by
    decide +kernel
  rw [(hanswer report hreport).1, hfound]

end SyscallPolicy.Elimination
