import SyscallPolicy.Proofs.Elimination.Sequential
import SyscallPolicy.Proofs.Elimination.WindingDown

/-!
# A single worker has no choice

The steps of several workers may be interleaved, and a look at the flag may
be out of date, so a pool has many runs.  A worker that is alone in the pool
has one: when the flag is up, it raised the flag itself and looks at it no
more (`Worker.Owns`), and apart from that its state and the board say what it
does next (`Act.unique`).  All its runs end in the same place
(`Pool.eq_of_complete`), so the report of the search is the only one that it
may give (`mayReport_one_iff`).

`probeAll_cases` says what such a report is about: all candidates, or those
up to the first fault.
-/

namespace SyscallPolicy.Elimination

open Workload (RunFailure)

section Alone

variable {α : Type} {probe : α → Except RunFailure Bool} {sight : Sight} {b b₁ b₂ : Board α}
  {w w₁ w₂ : Worker α} {p q r : Pool α}

/-! ## Steps of a single worker -/

/-- Whether the flag is up only if the worker raised it and is done with its
trials. -/
def Worker.Owns (b : Board α) (w : Worker α) : Prop :=
  b.stop = true → (∃ c fault, w = .raised c fault) ∨ w = .ended

theorem Act.owns (act : Act probe sight b w b₁ w₁) (howns : w.Owns b) : w₁.Owns b₁ := by
  cases act with
  | raise => exact fun _ => .inl ⟨_, _, rfl⟩
  | leave | heed | report => exact fun _ => .inr rfl
  | take | goOn | start | spare | find | note | fail =>
    intro hstop
    rcases howns hstop with ⟨c, fault, hw⟩ | hw <;> cases hw

/-- What a worker does next is settled. -/
theorem Act.unique (howns : w.Owns b) (act₁ : Act probe sight b w b₁ w₁)
    (act₂ : Act probe sight b w b₂ w₂) : b₁ = b₂ ∧ w₁ = w₂ := by
  have hheeds : ∀ c, w = .received c → b.stop = false := by
    intro c hw
    by_contra hup
    rcases howns (by simpa using hup) with ⟨d, fault, hraised⟩ | hended
    · cases hw.symm.trans hraised
    · cases hw.symm.trans hended
  cases act₁ with
  | take next =>
    cases act₂ with
    | take next' =>
      obtain ⟨rfl, rfl⟩ := List.cons.inj (next.symm.trans next')
      exact ⟨rfl, rfl⟩
    | leave empty => cases next.symm.trans empty
  | leave empty =>
    cases act₂ with
    | take next => cases next.symm.trans empty
    | leave => exact ⟨rfl, rfl⟩
  | goOn =>
    cases act₂ with
    | goOn => exact ⟨rfl, rfl⟩
    | heed raised => cases raised.symm.trans (hheeds _ rfl)
  | heed raised => cases raised.symm.trans (hheeds _ rfl)
  | spare outcome =>
    cases act₂ with
    | spare => exact ⟨rfl, rfl⟩
    | find outcome' | fail outcome' => cases outcome.symm.trans outcome'
  | find outcome =>
    cases act₂ with
    | find => exact ⟨rfl, rfl⟩
    | spare outcome' | fail outcome' => cases outcome.symm.trans outcome'
  | fail outcome =>
    cases act₂ with
    | fail outcome' =>
      obtain rfl := Except.error.inj (outcome.symm.trans outcome')
      exact ⟨rfl, rfl⟩
    | spare outcome' | find outcome' => cases outcome.symm.trans outcome'
  | start | note | raise | report =>
    cases act₂
    exact ⟨rfl, rfl⟩

/-! ## Runs of a single worker -/

/-- Whether a worker is alone in the pool. -/
def Pool.IsAlone (p : Pool α) : Prop :=
  ∃ b w, p = ⟨b, [w]⟩ ∧ w.Owns b

theorem Pool.isAlone_start (candidates : List α) : (Pool.start candidates 1).IsAlone :=
  ⟨_, .idle, rfl, fun hstop => by cases hstop⟩

theorem Pool.exists_act_of_step (hstep : Pool.Step probe sight ⟨b, [w]⟩ q) :
    ∃ b' w', q = ⟨b', [w']⟩ ∧ Act probe sight b w b' w' := by
  generalize hp : Pool.mk b [w] = p at hstep
  obtain @⟨b₀, b', w₀, w', before, after, act⟩ := hstep
  obtain ⟨rfl, hworkers⟩ := Pool.mk.inj hp
  cases before with
  | nil =>
    obtain ⟨rfl, rfl⟩ := List.cons.inj hworkers
    exact ⟨b', w', rfl, act⟩
  | cons x before =>
    have hlength := congrArg List.length hworkers
    simp only [List.cons_append, List.length_cons, List.length_append, List.length_nil] at hlength
    omega

theorem Pool.IsAlone.step (hp : p.IsAlone) (hstep : Pool.Step probe sight p q) : q.IsAlone := by
  obtain ⟨b, w, rfl, howns⟩ := hp
  obtain ⟨b', w', rfl, act⟩ := exists_act_of_step hstep
  exact ⟨b', w', rfl, act.owns howns⟩

theorem Pool.rightUnique_step_alone :
    Relator.RightUnique fun p q : Pool α => p.IsAlone ∧ Pool.Step probe sight p q := by
  rintro p q r ⟨⟨b, w, rfl, howns⟩, hq⟩ ⟨-, hr⟩
  obtain ⟨b₁, w₁, rfl, act₁⟩ := exists_act_of_step hq
  obtain ⟨b₂, w₂, rfl, act₂⟩ := exists_act_of_step hr
  obtain ⟨rfl, rfl⟩ := act₁.unique howns act₂
  rfl

theorem Pool.reaches_alone (hp : p.IsAlone) (hrun : Pool.Reaches probe sight p q) :
    q.IsAlone ∧
      Relation.ReflTransGen (fun p q : Pool α => p.IsAlone ∧ Pool.Step probe sight p q) p q := by
  induction hrun with
  | refl => exact ⟨hp, .refl⟩
  | tail _ hstep ih => exact ⟨ih.1.step hstep, ih.2.tail ⟨ih.1, hstep⟩⟩

/-- All runs of a single worker end in the same place. -/
theorem Pool.eq_of_complete (hp : p.IsAlone) (hq : Pool.Reaches probe sight p q)
    (hr : Pool.Reaches probe sight p r) (hcomplete : q.IsComplete) (hcomplete' : r.IsComplete) :
    q = r := by
  rcases Relation.ReflTransGen.total_of_right_unique rightUnique_step_alone
    (reaches_alone hp hq).2 (reaches_alone hp hr).2 with hrun | hrun
  · rcases hrun.cases_head with heq | ⟨next, hstep, -⟩
    · exact heq
    · exact absurd hstep.2 ((isComplete_iff_stuck probe sight q).mp hcomplete next)
  · rcases hrun.cases_head with heq | ⟨next, hstep, -⟩
    · exact heq.symm
    · exact absurd hstep.2 ((isComplete_iff_stuck probe sight r).mp hcomplete' next)

/-! ## Trials in order -/

/-- The trials in order go on to the end or to the first fault. -/
theorem probeAll_cases (probe : α → Except RunFailure Bool) (candidates : List α) :
    (∀ c ∈ candidates, ∀ fault, probe c ≠ .error fault) ∧
        (∃ found, probeAll probe candidates = (candidates, .ok found)) ∨
      ∃ before c after fault, candidates = before ++ c :: after ∧
        (∀ d ∈ before, ∀ fault, probe d ≠ .error fault) ∧ probe c = .error fault ∧
        probeAll probe candidates = (before ++ [c], .error (c, fault)) := by
  induction candidates with
  | nil => exact .inl ⟨fun _ hc => absurd hc List.not_mem_nil, [], rfl⟩
  | cons c rest ih =>
    cases hprobe : probe c with
    | error fault =>
      refine .inr ⟨[], c, rest, fault, rfl, fun _ hd => absurd hd List.not_mem_nil, hprobe, ?_⟩
      simp only [probeAll, hprobe, List.nil_append]
    | ok required =>
      have hc : ∀ fault, probe c ≠ .error fault := by simp [hprobe]
      rcases ih with ⟨hjudged, found, hrest⟩ | ⟨before, d, after, fault, rfl, hjudged, hd, hrest⟩
      · refine .inl ⟨List.forall_mem_cons.mpr ⟨hc, hjudged⟩,
          if required then c :: found else found, ?_⟩
        simp only [probeAll, hprobe, hrest]
      · refine .inr ⟨c :: before, d, after, fault, rfl, List.forall_mem_cons.mpr ⟨hc, hjudged⟩, hd,
          ?_⟩
        simp only [probeAll, hprobe, hrest, List.cons_append]

end Alone

/-- A single worker may give one report only, that of the search in order. -/
theorem mayReport_one_iff (s : Search) {sight : Sight} {report : Report} :
    MayReport s.runner s.candidates 1 sight report ↔ report = s.discover := by
  refine ⟨fun hreport => ?_, fun heq => heq ▸ mayReport_discover s sight⟩
  cases hreport with
  | aborted fails => simp only [Search.discover, fails]
  | @completed p succeeds run complete =>
    obtain ⟨b, hreaches, hstarted, htells⟩ := @Pool.reaches_probeAll _
      (probe s.runner s.candidates) sight { queue := s.candidates.probes } _ rfl rfl rfl
    have hp : p = ⟨b, [.ended]⟩ :=
      Pool.eq_of_complete (Pool.isAlone_start s.candidates.probes) run hreaches complete
        (by simp [Pool.IsComplete])
    rw [List.nil_append] at hstarted
    simp only [Search.discover, succeeds, hp, hstarted, answerOf_of_tells htells]

end SyscallPolicy.Elimination
