import SyscallPolicy.Elimination.Pool

/-!
# What a run of the pool keeps

`Elimination.Pool` says what one worker may do in one step.  This module
says what is true after any number of such steps, whichever worker makes
each of them.  Nothing here looks at the candidates: they are only counted
and compared.

There are three groups.

* One step of one worker.  `Board.Grows` is what no step takes back from
  the board.  `Worker.Knows` is what a worker relies on, and
  `Act.knows` says that it stays true.  `Act.count_eq` follows a candidate
  from the queue into a worker and from there to the started trials.
* The invariant.  `PoolInvariant` ties the queue, the workers and the board
  together.  `PoolInvariant.step` is the step lemma and
  `poolInvariant_of_reaches` the induction over a run.
* The end of a run.  `PoolInvariant.fault_of_stop` and
  `PoolInvariant.started_count` say what the invariant means when no
  worker is left.

The delicate moment is between raising the flag and reporting the fault:
other workers already drop the candidates that they took, and the report
is not there yet.  `Worker.Answers` names the worker that still owes it.
-/

namespace SyscallPolicy.Elimination

open Workload (RunFailure)

variable {α : Type} {probe : α → Except RunFailure Bool} {sight : Sight}
  {b b' : Board α} {w w' : Worker α}

/-! ## What a worker holds and what it knows -/

/-- The candidate that a worker took without having started its trial. -/
def Worker.pending : Worker α → List α
  | .received c => [c]
  | .cleared c => [c]
  | _ => []

/-- Whether the worker started the trial of a candidate and has not yet put
on the board what came of it. -/
def Worker.Tries (c : α) : Worker α → Prop
  | .probing d => d = c
  | .found d => d = c
  | .faulted d _ => d = c
  | _ => False

/-- What a worker relies on. -/
def Worker.Knows (probe : α → Except RunFailure Bool) (b : Board α) : Worker α → Prop
  | .probing c => c ∈ b.started
  | .found c => c ∈ b.started ∧ probe c = .ok true
  | .faulted c fault => c ∈ b.started ∧ probe c = .error fault
  | .raised c fault => c ∈ b.started ∧ probe c = .error fault ∧ b.stop = true
  | .ended => b.queue = [] ∨ b.stop = true
  | _ => True

/-- Whether the worker accounts for the raised flag: it is about to report a
fault, or it ended and some fault stands reported. -/
def Worker.Answers (b : Board α) : Worker α → Prop
  | .raised _ _ => True
  | .ended => b.fault.isSome = true
  | _ => False

/-- Whether the board shows what came of the trial of a candidate. -/
def Board.Shows (probe : α → Except RunFailure Bool) (b : Board α) (c : α) : Prop :=
  (probe c = .ok true → c ∈ b.required) ∧ (∀ fault, probe c = .error fault → b.stop = true)

/-- What no step takes back from the board. -/
structure Board.Grows (b b' : Board α) : Prop where
  queue : b.queue = [] → b'.queue = []
  stop : b.stop = true → b'.stop = true
  required : b.required ⊆ b'.required
  fault : ∀ found, b.fault = some found → b'.fault = some found
  started : b.started <+: b'.started

theorem Worker.Knows.mono (h : w.Knows probe b) (hgrows : b.Grows b') :
    w.Knows probe b' := by
  cases w with
  | probing c => exact hgrows.started.subset h
  | found c => exact ⟨hgrows.started.subset h.1, h.2⟩
  | faulted c fault => exact ⟨hgrows.started.subset h.1, h.2⟩
  | raised c fault => exact ⟨hgrows.started.subset h.1, h.2.1, hgrows.stop h.2.2⟩
  | ended => exact h.imp hgrows.queue hgrows.stop
  | idle | received c | cleared c => trivial

theorem Worker.Answers.mono (h : w.Answers b) (hgrows : b.Grows b') : w.Answers b' := by
  cases w with
  | raised c fault => trivial
  | ended =>
    obtain ⟨found, hfound⟩ := Option.isSome_iff_exists.mp h
    exact Option.isSome_iff_exists.mpr ⟨found, hgrows.fault found hfound⟩
  | idle | received c | cleared c | probing c | found c | faulted c fault => exact h.elim

theorem Board.Shows.mono {c : α} (h : b.Shows probe c) (hgrows : b.Grows b') :
    b'.Shows probe c :=
  ⟨fun hprobe => hgrows.required (h.1 hprobe), fun fault hprobe =>
    hgrows.stop (h.2 fault hprobe)⟩

/-! ## One step of one worker -/

theorem Act.grows (act : Act probe sight b w b' w') : b.Grows b' := by
  cases act with
  | take next => exact ⟨by simp [next], id, fun _ h => h, fun _ h => h, List.prefix_rfl⟩
  | start => exact ⟨id, id, fun _ h => h, fun _ h => h, List.prefix_append _ _⟩
  | note =>
    exact ⟨id, id, fun _ h => List.mem_cons_of_mem _ h, fun _ h => h, List.prefix_rfl⟩
  | raise => exact ⟨id, fun _ => rfl, fun _ h => h, fun _ h => h, List.prefix_rfl⟩
  | report => exact ⟨id, id, fun _ h => h, fun _ h => by simp [h], List.prefix_rfl⟩
  | leave | goOn | heed | spare | find | fail =>
    exact ⟨id, id, fun _ h => h, fun _ h => h, List.prefix_rfl⟩

theorem Act.knows (act : Act probe sight b w b' w') (hknows : w.Knows probe b) :
    w'.Knows probe b' := by
  cases act with
  | take | goOn | spare | note => trivial
  | leave empty => exact Or.inl empty
  | heed raised => exact Or.inr raised
  | start => simp [Worker.Knows]
  | find outcome => exact ⟨hknows, outcome⟩
  | fail outcome => exact ⟨hknows, outcome⟩
  | raise => exact ⟨hknows.1, hknows.2, rfl⟩
  | report => exact Or.inr hknows.2.2

/-- A trial that is no longer open has left its result on the board. -/
theorem Act.tries {c : α} (act : Act probe sight b w b' w') (hknows : w.Knows probe b)
    (htries : w.Tries c) : w'.Tries c ∨ b'.Shows probe c := by
  cases act with
  | spare outcome =>
    cases htries
    exact Or.inr ⟨by simp [outcome], by simp [outcome]⟩
  | find | fail => exact Or.inl htries
  | note =>
    cases htries
    exact Or.inr ⟨by simp, by simp [hknows.2]⟩
  | raise =>
    cases htries
    exact Or.inr ⟨by simp [hknows.2], by simp⟩
  | take | leave | goOn | heed | start | report => exact htries.elim

/-- A step starts no trial but that of the worker's own candidate. -/
theorem Act.mem_started {c : α} (act : Act probe sight b w b' w') (hc : c ∈ b'.started) :
    c ∈ b.started ∨ w'.Tries c := by
  cases act with
  | start =>
    rcases List.mem_append.mp hc with hold | hnew
    · exact Or.inl hold
    · exact Or.inr (List.mem_singleton.mp hnew).symm
  | take | leave | goOn | heed | spare | find | note | fail | raise | report => exact Or.inl hc

theorem Act.mem_required {c : α} (act : Act probe sight b w b' w') (hknows : w.Knows probe b)
    (hc : c ∈ b'.required) : c ∈ b.required ∨ c ∈ b'.started ∧ probe c = .ok true := by
  cases act with
  | note =>
    rcases List.mem_cons.mp hc with rfl | hold
    · exact Or.inr hknows
    · exact Or.inl hold
  | take | leave | goOn | heed | start | spare | find | fail | raise | report => exact Or.inl hc

theorem Act.fault_eq {c : α} {fault : RunFailure} (act : Act probe sight b w b' w')
    (hknows : w.Knows probe b) (hfault : b'.fault = some (c, fault)) :
    b.fault = some (c, fault) ∨ c ∈ b'.started ∧ probe c = .error fault := by
  cases act with
  | report =>
    rcases Option.or_eq_some_iff.mp hfault with hold | ⟨-, hnew⟩
    · exact Or.inl hold
    · cases hnew
      exact Or.inr ⟨hknows.1, hknows.2.1⟩
  | take | leave | goOn | heed | start | spare | find | note | fail | raise =>
    exact Or.inl hfault

/-- The worker that raises the flag accounts for it. -/
theorem Act.answers (act : Act probe sight b w b' w') :
    (b'.stop = true → b.stop = true ∨ w'.Answers b') ∧ (w.Answers b → w'.Answers b') := by
  cases act with
  | raise => exact ⟨fun _ => Or.inr trivial, False.elim⟩
  | report => exact ⟨Or.inl, fun _ => by simp [Worker.Answers]⟩
  | take | leave | goOn | heed | start | spare | find | note | fail =>
    exact ⟨Or.inl, False.elim⟩

section Counting

variable [DecidableEq α]

/-- While the flag is down, a candidate only moves on: from the queue to a
worker, and from there to the started trials. -/
theorem Act.count_eq (act : Act probe sight b w b' w') (hstop : b.stop = false) (c : α) :
    b'.queue.count c + w'.pending.count c + b'.started.count c =
      b.queue.count c + w.pending.count c + b.started.count c := by
  cases act with
  | take next => simp [Worker.pending, next, List.count_cons]
  | start => simp [Worker.pending]; omega
  | heed raised => simp [raised] at hstop
  | leave | goOn | spare | find | note | fail | raise | report => rfl

/-- No step brings a candidate back. -/
theorem Act.count_le (act : Act probe sight b w b' w') (c : α) :
    b'.queue.count c + w'.pending.count c + b'.started.count c ≤
      b.queue.count c + w.pending.count c + b.started.count c := by
  cases hstop : b.stop with
  | false => exact (act.count_eq hstop c).le
  | true =>
    cases act with
    | take next => simp [Worker.pending, next, List.count_cons]
    | start => simp [Worker.pending]; omega
    | heed raised => simp [Worker.pending]
    | leave | goOn | spare | find | note | fail | raise | report => rfl

end Counting

/-! ## The invariant of the pool -/

/-- Where one worker in a list is exchanged, a fact about some worker stays
true, or the exchange itself accounts for it. -/
theorem exists_mem_exchange {β : Type} {P Q : β → Prop} {R : Prop} {before after : List β}
    {x y : β} (hkeep : ∀ z, P z → Q z) (hswap : P x → Q y ∨ R)
    (h : ∃ z ∈ before ++ x :: after, P z) : (∃ z ∈ before ++ y :: after, Q z) ∨ R := by
  obtain ⟨z, hz, hPz⟩ := h
  simp only [List.mem_append, List.mem_cons] at hz ⊢
  rcases hz with hz | rfl | hz
  · exact Or.inl ⟨z, Or.inl hz, hkeep z hPz⟩
  · exact (hswap hPz).imp_left fun hQ => ⟨y, Or.inr (Or.inl rfl), hQ⟩
  · exact Or.inl ⟨z, Or.inr (Or.inr hz), hkeep z hPz⟩

variable [DecidableEq α] {p q : Pool α} {candidates : List α}

/-- How often a candidate occurs in the queue, with the workers, and among the
started trials. -/
def Pool.tally (p : Pool α) (c : α) : Nat :=
  p.board.queue.count c + (p.workers.map fun w => w.pending.count c).sum +
    p.board.started.count c

/-- The invariant of a pool that probes these candidates.

`answered` closes the gap between the raised flag and the reported fault.
`noneLost` holds while the flag is down only: a worker that sees the flag
raised drops the candidate that it took. -/
structure PoolInvariant (probe : α → Except RunFailure Bool) (candidates : List α)
    (p : Pool α) : Prop where
  knows : ∀ w ∈ p.workers, w.Knows probe p.board
  settled : ∀ c ∈ p.board.started,
    (∃ w ∈ p.workers, w.Tries c) ∨ p.board.Shows probe c
  answered : p.board.stop = true → ∃ w ∈ p.workers, w.Answers p.board
  noted : ∀ c ∈ p.board.required, c ∈ p.board.started ∧ probe c = .ok true
  reported : ∀ c fault, p.board.fault = some (c, fault) →
    c ∈ p.board.started ∧ probe c = .error fault
  atMostOnce : ∀ c, p.tally c ≤ candidates.count c
  noneLost : p.board.stop = false → ∀ c, p.tally c = candidates.count c

theorem poolInvariant_start (candidates : List α) (workers : Nat) :
    PoolInvariant probe candidates (.start candidates workers) where
  knows w hw := by
    rw [List.eq_of_mem_replicate hw]
    trivial
  settled c hc := absurd hc List.not_mem_nil
  answered hstop := by simp [Pool.start] at hstop
  noted c hc := absurd hc List.not_mem_nil
  reported c fault hfault := by simp [Pool.start] at hfault
  atMostOnce c := by simp [Pool.tally, Pool.start, Worker.pending]
  noneLost _ c := by simp [Pool.tally, Pool.start, Worker.pending]

theorem PoolInvariant.step (h : PoolInvariant probe candidates p)
    (hstep : Pool.Step probe sight p q) : PoolInvariant probe candidates q := by
  obtain @⟨b, b', w, w', before, after, act⟩ := hstep
  have hgrows := act.grows
  have hknows : w.Knows probe b := h.knows w (by simp)
  refine ⟨?knows, ?settled, ?answered, ?noted, ?reported, ?atMostOnce, ?noneLost⟩
  case knows =>
    intro x hx
    simp only [List.mem_append, List.mem_cons] at hx
    rcases hx with hx | rfl | hx
    · exact (h.knows x (by simp [hx])).mono hgrows
    · exact act.knows hknows
    · exact (h.knows x (by simp [hx])).mono hgrows
  case settled =>
    intro c hc
    rcases act.mem_started hc with hold | hnew
    · rcases h.settled c hold with hopen | hshown
      · exact exists_mem_exchange (fun _ => id) (act.tries hknows) hopen
      · exact Or.inr (hshown.mono hgrows)
    · exact Or.inl ⟨w', by simp, hnew⟩
  case answered =>
    -- The worker that owes the report either still owes it or has just made it.
    intro hstop
    rcases act.answers.1 hstop with hold | hnew
    · have hanswers := exists_mem_exchange (R := False) (fun _ hx => hx.mono hgrows)
        (fun hw => Or.inl (act.answers.2 hw)) (h.answered hold)
      exact hanswers.resolve_right id
    · exact ⟨w', by simp, hnew⟩
  case noted =>
    intro c hc
    rcases act.mem_required hknows hc with hold | hnew
    · exact (h.noted c hold).imp_left (hgrows.started.subset ·)
    · exact hnew
  case reported =>
    intro c fault hfault
    rcases act.fault_eq hknows hfault with hold | hnew
    · exact (h.reported c fault hold).imp_left (hgrows.started.subset ·)
    · exact hnew
  case atMostOnce =>
    intro c
    have hle := act.count_le c
    have hbound := h.atMostOnce c
    simp only [Pool.tally, List.map_append, List.map_cons, List.sum_append,
      List.sum_cons] at hbound ⊢
    omega
  case noneLost =>
    -- No step lowers the flag, so it was down before this step too.
    intro hdown c
    have hstop : b.stop = false := by
      by_contra hup
      simp [hgrows.stop (by simpa using hup)] at hdown
    have heq := act.count_eq hstop c
    have hbound := h.noneLost hstop c
    simp only [Pool.tally, List.map_append, List.map_cons, List.sum_append,
      List.sum_cons] at hbound ⊢
    omega

theorem poolInvariant_of_reaches {workers : Nat}
    (hrun : Pool.Reaches probe sight (.start candidates workers) p) :
    PoolInvariant probe candidates p := by
  induction hrun with
  | refl => exact poolInvariant_start candidates workers
  | tail _ hstep ih => exact ih.step hstep

/-! ## The end of a run -/

/-- No worker that has ended is left with a candidate. -/
theorem PoolInvariant.settled_of_complete (h : PoolInvariant probe candidates p)
    (hcomplete : p.IsComplete) {c : α} (hc : c ∈ p.board.started) : p.board.Shows probe c := by
  refine (h.settled c hc).resolve_left ?_
  rintro ⟨w, hw, htries⟩
  rw [hcomplete w hw] at htries
  exact htries

/-- A raised flag is not forgotten: at the end some fault stands reported. -/
theorem PoolInvariant.fault_of_stop (h : PoolInvariant probe candidates p)
    (hcomplete : p.IsComplete) (hstop : p.board.stop = true) :
    p.board.fault.isSome = true := by
  obtain ⟨w, hw, hanswers⟩ := h.answered hstop
  rw [hcomplete w hw] at hanswers
  exact hanswers

/-- The flag is raised for a fault only. -/
theorem PoolInvariant.exists_fault (h : PoolInvariant probe candidates p)
    (hstop : p.board.stop = true) : ∃ c ∈ p.board.started, ∃ fault, probe c = .error fault := by
  obtain ⟨w, hw, hanswers⟩ := h.answered hstop
  have hknows := h.knows w hw
  cases w with
  | raised c fault => exact ⟨c, hknows.1, fault, hknows.2.1⟩
  | ended =>
    obtain ⟨⟨c, fault⟩, hfound⟩ := Option.isSome_iff_exists.mp hanswers
    obtain ⟨hc, hprobe⟩ := h.reported c fault hfound
    exact ⟨c, hc, fault, hprobe⟩
  | idle | received c | cleared c | probing c | found c | faulted c fault =>
    exact hanswers.elim

/-- When the flag was never raised, the trials that were started are the
candidates, each as often as it was in the queue. -/
theorem PoolInvariant.started_count (h : PoolInvariant probe candidates p)
    (hcomplete : p.IsComplete) (hworkers : p.workers ≠ []) (hstop : p.board.stop = false)
    (c : α) : p.board.started.count c = candidates.count c := by
  obtain ⟨w, hw⟩ := List.exists_mem_of_ne_nil p.workers hworkers
  have hknows := h.knows w hw
  rw [hcomplete w hw] at hknows
  have hqueue : p.board.queue = [] := hknows.resolve_right (by simp [hstop])
  have hidle : (p.workers.map fun w => w.pending.count c) = p.workers.map fun _ => 0 :=
    List.map_congr_left fun w hw => by rw [hcomplete w hw]; rfl
  have htally := h.noneLost hstop c
  simpa [Pool.tally, hqueue, hidle] using htally

theorem PoolInvariant.mem_started (h : PoolInvariant probe candidates p)
    (hcomplete : p.IsComplete) (hworkers : p.workers ≠ []) (hstop : p.board.stop = false)
    {c : α} (hc : c ∈ candidates) : c ∈ p.board.started := by
  rw [← List.count_pos_iff, h.started_count hcomplete hworkers hstop c]
  exact List.count_pos_iff.mpr hc

/-- Only candidates are tried. -/
theorem PoolInvariant.mem_candidates (h : PoolInvariant probe candidates p) {c : α}
    (hc : c ∈ p.board.started) : c ∈ candidates := by
  have hpos : 0 < p.board.started.count c := List.count_pos_iff.mpr hc
  have hle := h.atMostOnce c
  rw [Pool.tally] at hle
  exact List.count_pos_iff.mp (by omega)

/-- A candidate whose trial cannot be run does not get lost: if no worker
drops it, its trial is started and raises the flag. -/
theorem PoolInvariant.fault_of_mem (h : PoolInvariant probe candidates p)
    (hcomplete : p.IsComplete) (hworkers : p.workers ≠ []) {c : α} {fault : RunFailure}
    (hc : c ∈ candidates) (hprobe : probe c = .error fault) :
    p.board.fault.isSome = true := by
  cases hstop : p.board.stop with
  | true => exact h.fault_of_stop hcomplete hstop
  | false =>
    have hstarted := h.mem_started hcomplete hworkers hstop hc
    have hraised := (h.settled_of_complete hcomplete hstarted).2 fault hprobe
    rw [hstop] at hraised
    cases hraised

section Judged

variable (hjudged : ∀ c ∈ candidates, ∀ fault, probe c ≠ .error fault)
include hjudged

theorem PoolInvariant.stop_eq_false (h : PoolInvariant probe candidates p) :
    p.board.stop = false := by
  by_contra hup
  obtain ⟨c, hc, fault, hprobe⟩ := h.exists_fault (by simpa using hup)
  exact hjudged c (h.mem_candidates hc) fault hprobe

theorem PoolInvariant.fault_eq_none (h : PoolInvariant probe candidates p) :
    p.board.fault = none := by
  by_contra hsome
  obtain ⟨⟨c, fault⟩, hfound⟩ := Option.ne_none_iff_exists'.mp hsome
  obtain ⟨hc, hprobe⟩ := h.reported c fault hfound
  exact hjudged c (h.mem_candidates hc) fault hprobe

/-- Without faults the board ends up with exactly the required candidates. -/
theorem PoolInvariant.mem_required_iff (h : PoolInvariant probe candidates p)
    (hcomplete : p.IsComplete) (hworkers : p.workers ≠ []) {c : α} (hc : c ∈ candidates) :
    c ∈ p.board.required ↔ probe c = .ok true := by
  refine ⟨fun hnoted => (h.noted c hnoted).2, fun hprobe => ?_⟩
  have hstarted := h.mem_started hcomplete hworkers (h.stop_eq_false hjudged) hc
  exact (h.settled_of_complete hcomplete hstarted).1 hprobe

end Judged

end SyscallPolicy.Elimination
