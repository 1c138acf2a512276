import SyscallPolicy.Proofs.Elimination.Schedule

/-!
# Faults of trials reach the answer

A trial that cannot be run says nothing about its call, so a discovery with
such a trial must not pass for a result.  Between raising the flag and
reporting the fault other workers may already drop what they took, and a
look at the flag may be out of date; neither loses a fault, and neither
makes one up.

`IsFaulty` is a fault in terms of the workload alone.  `faults_reported`
puts the parts together: when there is a fault, where it comes from, and how
little is still done once the flag is raised.
-/

namespace SyscallPolicy.Elimination

open Workload (RunFailure)

variable {runner : Runner} {u : Universe} {workers : Nat} {sight : Sight} {report : Report}

/-- Whether the trial that withholds a call cannot be run, with this cause. -/
def IsFaulty (runner : Runner) (u : Universe) (name : String) (cause : RunFailure) : Prop :=
  runner (some (u.trial name)) = .error cause ∧ cause.isHarnessFault = true

theorem answerOf_eq_probeHarness_iff {result : Except (u.Place × RunFailure) (List u.Place)}
    {name : String} {cause : RunFailure} :
    answerOf u result = .error (.probeHarness name cause) ↔
      ∃ place, result = .error (place, cause) ∧ u.nameAt place = name := by
  rcases result with ⟨place, fault⟩ | required
  · simp only [answerOf, Except.error.injEq, Failure.probeHarness.injEq, Prod.mk.injEq]
    refine ⟨?_, ?_⟩
    · rintro ⟨hname, rfl⟩
      exact ⟨place, ⟨rfl, rfl⟩, hname⟩
    · rintro ⟨_, ⟨rfl, rfl⟩, hname⟩
      exact ⟨hname, rfl⟩
  · simp [answerOf]

theorem board_result_eq_error_iff {α : Type} {b : Board α} {found : α × RunFailure} :
    b.result = .error found ↔ b.fault = some found := by
  unfold Board.result
  cases b.fault <;> simp

/-- A reported fault is the fault of a candidate that was tried. -/
theorem isFaulty_of_answer (hrun : runner none = .ok ())
    (hreport : MayReport runner u workers sight report) {name : String} {cause : RunFailure}
    (hanswer : report.answer = .error (.probeHarness name cause)) :
    name ∈ u.names ∧ Syscall.isEssential name = false ∧ some (u.trial name) ∈ report.runs ∧
      IsFaulty runner u name cause := by
  obtain ⟨p, hinv, -, -, rfl⟩ := mayReport_cases hreport hrun
  obtain ⟨place, hresult, rfl⟩ := answerOf_eq_probeHarness_iff.mp hanswer
  obtain ⟨hstarted, hprobe⟩ := hinv.reported place cause (board_result_eq_error_iff.mp hresult)
  refine ⟨u.nameAt_mem place, Universe.mem_probes.mp (hinv.mem_candidates hstarted), ?_,
    isRequired_eq_error_iff.mp hprobe⟩
  exact List.mem_cons_of_mem _ (List.mem_map.mpr ⟨place, hstarted, rfl⟩)

/-- One faulty candidate is enough for the answer to be a fault. -/
theorem answer_of_isFaulty (hrun : runner none = .ok ()) (hworkers : 0 < workers)
    (hreport : MayReport runner u workers sight report) {name : String} {cause : RunFailure}
    (hname : name ∈ u.names) (hprobed : Syscall.isEssential name = false)
    (hfaulty : IsFaulty runner u name cause) :
    ∃ other fault, report.answer = .error (.probeHarness other fault) := by
  obtain ⟨p, hinv, hcomplete, hlength, rfl⟩ := mayReport_cases hreport hrun
  obtain ⟨place, rfl⟩ := Universe.exists_nameAt hname
  have hsome : p.workers ≠ [] := List.ne_nil_of_length_pos (hlength ▸ hworkers)
  have hfault := hinv.fault_of_mem hcomplete hsome (Universe.mem_probes.mpr hprobed)
    (isRequired_eq_error_iff.mpr hfaulty)
  obtain ⟨⟨other, fault⟩, hfound⟩ := Option.isSome_iff_exists.mp hfault
  exact ⟨u.nameAt other, fault, answerOf_eq_probeHarness_iff.mpr
    ⟨other, board_result_eq_error_iff.mpr hfound, rfl⟩⟩

/-- Once the flag is raised, each worker but the one that raised it may start
one trial more. -/
theorem started_le_of_stop {p q : Pool u.Place}
    (hreaches : Pool.Reaches (probe runner u) .current (.start u.probes workers) p)
    (hstop : p.board.stop = true) (hrest : Pool.Reaches (probe runner u) .current p q) :
    q.board.started.length ≤ p.board.started.length + (workers - 1) := by
  have hlt := (poolInvariant_of_reaches hreaches).countP_isCleared_lt hstop
  have hle := (Pool.started_le_of_reaches hrest hstop).2
  have hlength : p.workers.length = workers := by
    rw [Pool.length_workers_of_reaches hreaches]
    exact List.length_replicate
  omega

/-- A fault is never lost and never made up, in any interleaving and by any
number of workers. -/
theorem faults_reported (runner : Runner) (u : Universe) (workers : Nat)
    (hrun : runner none = .ok ()) (hworkers : 0 < workers) :
    (∀ sight, ∃ report, MayReport runner u workers sight report) ∧
    (∀ sight report, MayReport runner u workers sight report →
      ((∃ name ∈ u.names, Syscall.isEssential name = false ∧
          ∃ cause, IsFaulty runner u name cause) ↔
        ∃ name cause, report.answer = .error (.probeHarness name cause))) ∧
    (∀ sight report, MayReport runner u workers sight report →
      ∀ name cause, report.answer = .error (.probeHarness name cause) →
        name ∈ u.names ∧ Syscall.isEssential name = false ∧
          some (u.trial name) ∈ report.runs ∧ IsFaulty runner u name cause) ∧
    ∀ p q, Pool.Reaches (probe runner u) .current (.start u.probes workers) p →
      p.board.stop = true → Pool.Reaches (probe runner u) .current p q →
        q.board.started.length ≤ p.board.started.length + (workers - 1) := by
  refine ⟨fun sight => exists_mayReport u workers sight hrun, ?_, ?_, ?_⟩
  · intro sight report hreport
    refine ⟨?_, ?_⟩
    · rintro ⟨name, hname, hprobed, cause, hfaulty⟩
      exact answer_of_isFaulty hrun hworkers hreport hname hprobed hfaulty
    · rintro ⟨name, cause, hanswer⟩
      obtain ⟨hname, hprobed, -, hfaulty⟩ := isFaulty_of_answer hrun hreport hanswer
      exact ⟨name, hname, hprobed, cause, hfaulty⟩
  · intro sight report hreport name cause hanswer
    exact isFaulty_of_answer hrun hreport hanswer
  · intro p q hreaches hstop hrest
    exact started_le_of_stop hreaches hstop hrest

/-- A workload that cannot be launched when this call is refused. -/
def unlaunchableWithout (call : String) : Runner
  | none => .ok ()
  | some p => if call ∈ p.allNames then .ok () else .error (.harness "sandbox unavailable")

theorem isFaulty_unlaunchableWithout {call name : String} {cause : RunFailure}
    (hcall : call ∈ u.names) (hname : name ∈ u.names)
    (hfaulty : IsFaulty (unlaunchableWithout call) u name cause) :
    name = call ∧ cause = .harness "sandbox unavailable" := by
  obtain ⟨hfails, -⟩ := hfaulty
  rw [unlaunchableWithout, Universe.allNames_trial] at hfails
  split at hfails
  · cases hfails
  · rename_i hrefused
    cases hfails
    refine ⟨?_, rfl⟩
    by_contra hne
    exact hrefused ((Universe.mem_trialNames hname).mpr ⟨Or.inl hcall, Ne.symm hne⟩)

/-- Two workers share three trials, of which one cannot be run. -/
theorem fault_of_mmap_reported :
    unlaunchableWithout "mmap" none = .ok () ∧ 0 < 2 ∧
      (∃ report, MayReport (unlaunchableWithout "mmap") (.ofList ["read", "mmap", "write"]) 2
        .stale report) ∧
      ∀ report, MayReport (unlaunchableWithout "mmap") (.ofList ["read", "mmap", "write"]) 2
          .stale report →
        report.answer = .error (.probeHarness "mmap" (.harness "sandbox unavailable")) := by
  obtain ⟨hexists, hfaulty, hsource, -⟩ :=
    faults_reported (unlaunchableWithout "mmap") (.ofList ["read", "mmap", "write"]) 2 rfl
      (by decide)
  refine ⟨rfl, by decide, hexists .stale, fun report hreport => ?_⟩
  have hmmap : "mmap" ∈ (Universe.ofList ["read", "mmap", "write"]).names := by decide +kernel
  obtain ⟨name, cause, hanswer⟩ := (hfaulty .stale report hreport).mp
    ⟨"mmap", hmmap, by decide +kernel, .harness "sandbox unavailable", by decide +kernel, rfl⟩
  obtain ⟨hname, -, -, hfails⟩ := hsource .stale report hreport name cause hanswer
  obtain ⟨rfl, rfl⟩ := isFaulty_unlaunchableWithout hmmap hname hfails
  exact hanswer

end SyscallPolicy.Elimination
