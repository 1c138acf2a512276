import SyscallPolicy.Proofs.Elimination.Places
import SyscallPolicy.Proofs.Elimination.Progress

/-!
# The pool winds down

Whatever comes out of the trials, a pool of workers comes to its end.  Every
step spends some of the work that is left, and that is linear in the queue
and the workers (`Pool.work_le`), so a run has no more steps than there is
work at its start (`Pool.length_add_work_le`).  No step waits for another
worker: a pool is stuck only when all of its workers have ended
(`Pool.isComplete_iff_stuck`).  And no worker runs two trials at a time, so
there are never more trials than workers (`Pool.running_le`).

The workers of a search are as many as its bound allows, but no more than
there are trials to make, and one if there are none
(`Search.workers_withParallel`).
-/

namespace SyscallPolicy.Elimination

open Workload (RunFailure)

variable {α : Type} {probe : α → Except RunFailure Bool} {sight : Sight} {p q : Pool α}

/-! ## Work -/

theorem Pool.Move.work_lt (hmove : p.Move q) : q.work < p.work := by
  obtain ⟨probe, sight, hstep⟩ := hmove
  exact hstep.work_lt

theorem Worker.effort_le (w : Worker α) : w.effort ≤ 5 := by
  cases w <;> simp [Worker.effort]

theorem Worker.sum_effort_le (workers : List (Worker α)) :
    (workers.map Worker.effort).sum ≤ 5 * workers.length := by
  induction workers with
  | nil => exact Nat.zero_le _
  | cons w rest ih =>
    have hfirst := w.effort_le
    rw [List.map_cons, List.sum_cons, List.length_cons]
    omega

theorem Pool.work_le (p : Pool α) :
    p.work ≤ 5 * (p.board.queue.length + p.workers.length) := by
  have hefforts := Worker.sum_effort_le p.workers
  rw [Pool.work]
  omega

theorem Pool.work_start (candidates : List α) (workers : Nat) :
    (Pool.start candidates workers).work = 5 * candidates.length + workers := by
  rw [Pool.work, Pool.start, List.map_replicate, List.sum_replicate_nat, Worker.effort,
    Nat.mul_one]

/-- So many steps leave so much less work. -/
theorem Pool.length_add_work_le {run : Nat → Pool α} {n : Nat}
    (hrun : ∀ i < n, (run i).Move (run (i + 1))) : n + (run n).work ≤ (run 0).work := by
  induction n with
  | zero => rw [Nat.zero_add]
  | succ n ih =>
    have hbefore := ih fun i hi => hrun i (Nat.lt_succ_of_lt hi)
    have hlast := (hrun n (Nat.lt_succ_self n)).work_lt
    omega

theorem Pool.not_exists_infinite : ¬∃ run : Nat → Pool α, ∀ i, (run i).Move (run (i + 1)) := by
  rintro ⟨run, hrun⟩
  have hlong := Pool.length_add_work_le (n := (run 0).work + 1) fun i _ => hrun i
  omega

/-! ## Ends -/

theorem Act.ne_ended {b b' : Board α} {w w' : Worker α} (act : Act probe sight b w b' w') :
    w ≠ .ended := by
  cases act <;> simp

theorem Pool.isComplete_iff_stuck (probe : α → Except RunFailure Bool) (sight : Sight)
    (p : Pool α) : p.IsComplete ↔ ∀ q, ¬Pool.Step probe sight p q := by
  refine ⟨?_, fun hstuck => ?_⟩
  · rintro hcomplete q ⟨before, after, act⟩
    exact act.ne_ended (hcomplete _ (by simp))
  · by_contra hcomplete
    obtain ⟨q, hstep⟩ := Pool.exists_step probe sight hcomplete
    exact hstuck q hstep

/-! ## The workers of a search -/

theorem Pool.running_le (p : Pool α) : p.running ≤ p.workers.length :=
  List.countP_le_length

/-- The pool of a search before its first step. -/
def Search.pool (s : Search) : Pool s.candidates.Place :=
  .start s.candidates.probes s.workers

theorem Search.workers_withParallel (s : Search) (bound : Nat) :
    (s.withParallel bound).workers = max 1 (min bound s.candidates.probes.length) := by
  simp only [Search.workers, Search.withParallel]
  omega

theorem Search.running_le_of_movesTo {s : Search} {p : Pool s.candidates.Place}
    (hrun : s.pool.MovesTo p) : p.running ≤ s.workers := by
  have hlength : p.workers.length = s.workers := by
    rw [Pool.length_workers_of_movesTo hrun]
    exact List.length_replicate
  exact hlength ▸ p.running_le

/-- One idle worker after the other can take a candidate up to its trial,
while the trials of others are running. -/
theorem Pool.reaches_all_probing {b : Board α} {taken rest : List α} (busy : List (Worker α))
    (idle : Nat) (hqueue : b.queue = taken ++ rest) (hstop : b.stop = false) :
    Pool.Reaches probe sight ⟨b, busy ++ List.replicate (taken.length + idle) .idle⟩
      ⟨{ b with queue := rest, started := b.started ++ taken },
        busy ++ (taken.map .probing ++ List.replicate idle .idle)⟩ := by
  induction taken generalizing b busy with
  | nil =>
    obtain rfl : b.queue = rest := hqueue
    simp only [List.length_nil, Nat.zero_add, List.map_nil, List.nil_append, List.append_nil]
    exact .refl
  | cons c taken ih =>
    have hfirst : Pool.Reaches probe sight
        ⟨b, busy ++ .idle :: List.replicate (taken.length + idle) .idle⟩ _ :=
      Pool.reaches_probing busy _ hqueue hstop
    have hothers := @ih { b with queue := taken ++ rest, started := b.started ++ [c] }
      (busy ++ [.probing c]) rfl hstop
    rw [← List.append_cons, ← List.append_cons, List.append_assoc, List.singleton_append] at hothers
    rw [List.length_cons, Nat.add_right_comm, List.replicate_succ]
    exact hfirst.trans hothers

/-- The workers of a search can all be running trials at one time, if there
are so many. -/
theorem Search.exists_running_eq (s : Search) :
    ∃ p, s.pool.MovesTo p ∧ p.running = min s.workers s.candidates.probes.length := by
  obtain ⟨taken, rest, hprobes, htaken⟩ : ∃ taken rest, s.candidates.probes = taken ++ rest ∧
      taken.length = min s.workers s.candidates.probes.length :=
    ⟨_, _, (List.take_append_drop s.workers _).symm, List.length_take⟩
  obtain ⟨idle, hidle⟩ := Nat.exists_eq_add_of_le (htaken ▸ Nat.min_le_left s.workers _)
  have hrun : Pool.Reaches (fun _ => .ok true) .current
      ⟨{ queue := s.candidates.probes }, List.replicate (taken.length + idle) .idle⟩ _ :=
    Pool.reaches_all_probing [] idle hprobes rfl
  rw [← hidle] at hrun
  refine ⟨_, Pool.movesTo_of_reaches hrun, ?_⟩
  rw [← htaken]
  simp [Pool.running, Worker.isProbing, List.countP_map, Function.comp_def]

/-- Whatever comes out of its trials, the pool of a search ends: every step
spends some of the work that is left, which is linear in the queue and the
workers, so no run is infinite, and a pool that is stuck has only workers that
have ended.  Until then no more trials are running than the search may run at
one time, and so many can be. -/
theorem pool_winds_down (s : Search) (bound : Nat) :
    (∀ p q : Pool s.candidates.Place, p.Move q → q.work < p.work) ∧
    (∀ p : Pool s.candidates.Place,
      p.work ≤ 5 * (p.board.queue.length + p.workers.length)) ∧
    (∀ (run : Nat → Pool s.candidates.Place) (n : Nat), run 0 = (s.withParallel bound).pool →
      (∀ i < n, (run i).Move (run (i + 1))) →
        n ≤ 5 * s.candidates.probes.length + (s.withParallel bound).workers) ∧
    (¬∃ run : Nat → Pool s.candidates.Place, ∀ i, (run i).Move (run (i + 1))) ∧
    (∀ (probe : s.candidates.Place → Except RunFailure Bool) (sight : Sight)
        (p : Pool s.candidates.Place),
      (p.IsComplete ↔ ∀ q, ¬Pool.Step probe sight p q) ∧
        ∃ q, Pool.Reaches probe sight p q ∧ q.IsComplete) ∧
    (∀ p, (s.withParallel bound).pool.MovesTo p → p.running ≤
      max 1 (min bound (s.candidates.names.countP fun name => !Syscall.isEssential name))) ∧
    ∃ p, (s.withParallel bound).pool.MovesTo p ∧ p.running =
      min (max 1 bound) (s.candidates.names.countP fun name => !Syscall.isEssential name) := by
  refine ⟨fun p q hmove => hmove.work_lt, Pool.work_le, ?finite, Pool.not_exists_infinite, ?ends,
    ?running, ?attained⟩
  case finite =>
    intro run n hstart hrun
    have hsteps := Pool.length_add_work_le hrun
    rw [hstart] at hsteps
    exact (Nat.le_of_add_right_le hsteps).trans (Pool.work_start _ _).le
  case ends =>
    intro probe sight p
    exact ⟨p.isComplete_iff_stuck probe sight, Pool.exists_complete probe sight p⟩
  case running =>
    intro p hrun
    rw [← Universe.length_probes, ← s.workers_withParallel bound]
    exact Search.running_le_of_movesTo hrun
  case attained =>
    obtain ⟨p, hrun, hrunning⟩ := (s.withParallel bound).exists_running_eq
    have hprobes : (s.withParallel bound).candidates.probes.length =
        s.candidates.names.countP fun name => !Syscall.isEssential name :=
      Universe.length_probes
    refine ⟨p, hrun, ?_⟩
    rw [hrunning, hprobes, s.workers_withParallel bound, Universe.length_probes]
    omega

/-- Of three candidates two are probed, and both trials can be running at
once.  Where nothing is probed and the bound is zero, one worker looks into
the empty queue and ends. -/
theorem two_trials_at_once :
    (∃ p, (Search.withParallel ⟨fun _ => .ok (), .ofList ["read", "futex", "mmap"], 1⟩ 7).pool.MovesTo
        p ∧ p.running = 2) ∧
    ∃ run : Nat → Pool (Universe.ofList ["futex"]).Place,
      run 0 = (Search.withParallel ⟨fun _ => .ok (), .ofList ["futex"], 1⟩ 0).pool ∧
      (∀ i < 1, (run i).Move (run (i + 1))) ∧ (run 1).IsComplete ∧
      1 ≤ 5 * (Universe.ofList ["futex"]).probes.length +
        (Search.withParallel ⟨fun _ => .ok (), .ofList ["futex"], 1⟩ 0).workers := by
  refine ⟨?running, ?ending⟩
  case running =>
    obtain ⟨-, -, -, -, -, -, p, hrun, hrunning⟩ :=
      pool_winds_down ⟨fun _ => .ok (), .ofList ["read", "futex", "mmap"], 1⟩ 7
    have htwo : min (max 1 7) ((Universe.ofList ["read", "futex", "mmap"]).names.countP
        fun name => !Syscall.isEssential name) = 2 := by
      decide +kernel
    exact ⟨p, hrun, hrunning.trans htwo⟩
  case ending =>
    obtain ⟨-, -, hfinite, -⟩ := pool_winds_down ⟨fun _ => .ok (), .ofList ["futex"], 1⟩ 0
    have hpool : (Search.withParallel ⟨fun _ => .ok (), .ofList ["futex"], 1⟩ 0).pool =
        ⟨{ queue := [] }, [.idle]⟩ := by
      decide +kernel
    have hstep : (⟨{ queue := [] }, [.idle]⟩ : Pool (Universe.ofList ["futex"]).Place).Move
        ⟨{ queue := [] }, [.ended]⟩ :=
      ⟨fun _ => .ok true, .current, .of [] [] (.leave rfl)⟩
    let run : Nat → Pool (Universe.ofList ["futex"]).Place
      | 0 => ⟨{ queue := [] }, [.idle]⟩
      | _ => ⟨{ queue := [] }, [.ended]⟩
    have hrun : ∀ i < 1, (run i).Move (run (i + 1)) := by
      intro i hi
      obtain rfl : i = 0 := Nat.lt_one_iff.mp hi
      exact hstep
    exact ⟨run, hpool.symm, hrun, by decide, hfinite run 1 hpool.symm hrun⟩

end SyscallPolicy.Elimination
