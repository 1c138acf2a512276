import SyscallPolicy.Proofs.Elimination.Invariant

/-!
# How a run of the pool goes on and ends

Every worker that has not ended can make its next step, and every step
spends some of the work that is left.  So a run ends, it ends with all
workers ended, and any run can be led to such an end.  Once the flag is
raised, a look at the flag as it is lets no further trial pass: only the
workers that looked before may start the trial that they have in hand.
-/

namespace SyscallPolicy.Elimination

open Workload (RunFailure)

variable {α : Type} {probe : α → Except RunFailure Bool} {sight : Sight}
  {b b' : Board α} {w w' : Worker α} {p q : Pool α}

/-! ## Steps spend work -/

theorem Act.effort_lt (act : Act probe sight b w b' w') :
    5 * b'.queue.length + w'.effort < 5 * b.queue.length + w.effort := by
  cases act with
  | take next => simp only [next, List.length_cons, Worker.effort]; omega
  | leave | goOn | heed | start | spare | find | note | fail | raise | report =>
    simp [Worker.effort]

theorem Pool.Step.work_lt (hstep : Pool.Step probe sight p q) : q.work < p.work := by
  obtain ⟨before, after, act⟩ := hstep
  have hlt := act.effort_lt
  simp only [Pool.work, List.map_append, List.map_cons, List.sum_append, List.sum_cons]
  omega

theorem Pool.Step.length_workers (hstep : Pool.Step probe sight p q) :
    q.workers.length = p.workers.length := by
  obtain ⟨before, after, act⟩ := hstep
  simp

/-- One step of the pool, where a trial may come out in any way and a look
at the flag may be out of date. -/
def Pool.Move (p q : Pool α) : Prop :=
  ∃ probe sight, Pool.Step probe sight p q

/-- A run of the pool in which every trial may come out in any way. -/
abbrev Pool.MovesTo : Pool α → Pool α → Prop :=
  Relation.ReflTransGen Pool.Move

theorem Pool.movesTo_of_reaches (hrun : Pool.Reaches probe sight p q) : p.MovesTo q :=
  Relation.ReflTransGen.mono (fun _ _ hstep => ⟨probe, sight, hstep⟩) _ _ hrun

theorem Pool.length_workers_of_movesTo (hrun : p.MovesTo q) :
    q.workers.length = p.workers.length := by
  induction hrun with
  | refl => rfl
  | tail _ hmove ih =>
    obtain ⟨probe, sight, hstep⟩ := hmove
    exact hstep.length_workers.trans ih

theorem Pool.length_workers_of_reaches (hrun : Pool.Reaches probe sight p q) :
    q.workers.length = p.workers.length :=
  Pool.length_workers_of_movesTo (Pool.movesTo_of_reaches hrun)

/-! ## A worker that has not ended can go on -/

theorem Worker.exists_act (probe : α → Except RunFailure Bool) (sight : Sight) (b : Board α)
    (hw : w ≠ .ended) : ∃ b' w', Act probe sight b w b' w' := by
  cases w with
  | idle =>
    cases hqueue : b.queue with
    | nil => exact ⟨_, _, .leave hqueue⟩
    | cons c rest => exact ⟨_, _, .take hqueue⟩
  | received c =>
    cases hstop : b.stop with
    | false => exact ⟨_, _, .goOn (Or.inr hstop)⟩
    | true => exact ⟨_, _, .heed hstop⟩
  | cleared c => exact ⟨_, _, .start⟩
  | probing c =>
    cases hprobe : probe c with
    | error fault => exact ⟨_, _, .fail hprobe⟩
    | ok required =>
      cases required with
      | false => exact ⟨_, _, .spare hprobe⟩
      | true => exact ⟨_, _, .find hprobe⟩
  | found c => exact ⟨_, _, .note⟩
  | faulted c fault => exact ⟨_, _, .raise⟩
  | raised c fault => exact ⟨_, _, .report⟩
  | ended => exact absurd rfl hw

/-- A pool is stuck only when all of its workers have ended. -/
theorem Pool.exists_step (probe : α → Except RunFailure Bool) (sight : Sight)
    (hp : ¬p.IsComplete) : ∃ q, Pool.Step probe sight p q := by
  obtain ⟨b, workers⟩ := p
  simp only [Pool.IsComplete, not_forall] at hp
  obtain ⟨w, hw, hne⟩ := hp
  obtain ⟨before, after, rfl⟩ := List.append_of_mem hw
  obtain ⟨b', w', act⟩ := Worker.exists_act probe sight b hne
  exact ⟨_, .of before after act⟩

/-- Every run can be led to its end. -/
theorem Pool.exists_complete (probe : α → Except RunFailure Bool) (sight : Sight)
    (p : Pool α) : ∃ q, Pool.Reaches probe sight p q ∧ q.IsComplete := by
  -- The induction is on the work that is left, whichever worker does it.
  induction hwork : p.work using Nat.strongRecOn generalizing p with
  | ind work ih =>
    by_cases hp : p.IsComplete
    · exact ⟨p, .refl, hp⟩
    · obtain ⟨q, hstep⟩ := Pool.exists_step probe sight hp
      obtain ⟨r, hrun, hr⟩ := ih q.work (hwork ▸ hstep.work_lt) q rfl
      exact ⟨r, .head hstep hrun, hr⟩

/-- While the flag is down, any of the workers can take the next candidate up
to its trial. -/
theorem Pool.reaches_probing (before after : List (Worker α)) {c : α} {rest : List α}
    (hqueue : b.queue = c :: rest) (hstop : b.stop = false) :
    Pool.Reaches probe sight ⟨b, before ++ .idle :: after⟩
      ⟨{ b with queue := rest, started := b.started ++ [c] }, before ++ .probing c :: after⟩ := by
  refine .head (.of before after (.take hqueue)) ?_
  refine .head (.of before after (.goOn (.inr hstop))) ?_
  exact .single (.of before after .start)

/-! ## After the flag is raised -/

/-- Whether the worker looked at the flag and has not yet started its trial. -/
def Worker.isCleared : Worker α → Bool
  | .cleared _ => true
  | _ => false

/-- Behind a raised flag each start of a trial uses up a worker that had
looked at the flag before. -/
theorem Act.started_le (act : Act probe .current b w b' w') (hstop : b.stop = true) :
    b'.started.length + [w'].countP Worker.isCleared ≤
      b.started.length + [w].countP Worker.isCleared := by
  cases act with
  | goOn clear => simp [hstop] at clear
  | take | leave | heed | start | spare | find | note | fail | raise | report =>
    simp [Worker.isCleared]

theorem Pool.Step.started_le (hstep : Pool.Step probe .current p q)
    (hstop : p.board.stop = true) :
    q.board.started.length + q.workers.countP Worker.isCleared ≤
      p.board.started.length + p.workers.countP Worker.isCleared := by
  obtain @⟨b, b', w, w', before, after, act⟩ := hstep
  have hle := act.started_le hstop
  rw [List.append_cons before w after, List.append_cons before w' after]
  simp only [List.countP_append]
  omega

theorem Pool.started_le_of_reaches (hrun : Pool.Reaches probe .current p q)
    (hstop : p.board.stop = true) :
    q.board.stop = true ∧
      q.board.started.length + q.workers.countP Worker.isCleared ≤
        p.board.started.length + p.workers.countP Worker.isCleared := by
  induction hrun with
  | refl => exact ⟨hstop, le_rfl⟩
  | tail _ hstep ih =>
    refine ⟨?_, (hstep.started_le ih.1).trans ih.2⟩
    obtain ⟨before, after, act⟩ := hstep
    exact act.grows.stop ih.1

/-- The worker that accounts for the raised flag starts no trial any more, so
one worker less than there are may still start one. -/
theorem PoolInvariant.countP_isCleared_lt [DecidableEq α] {candidates : List α}
    (h : PoolInvariant probe candidates p) (hstop : p.board.stop = true) :
    p.workers.countP Worker.isCleared < p.workers.length := by
  obtain ⟨w, hw, hanswers⟩ := h.answered hstop
  refine lt_of_le_of_ne List.countP_le_length fun heq => ?_
  have hcleared := List.countP_eq_length.mp heq w hw
  cases w with
  | cleared c => exact hanswers
  | _ => simp [Worker.isCleared] at hcleared

end SyscallPolicy.Elimination
