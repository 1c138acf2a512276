import SyscallPolicy.Proofs.Elimination.Places
import SyscallPolicy.Proofs.Elimination.Progress

/-!
# The search in order is one of the schedules

`Search.discover` makes its trials one after the other and ends at the first
fault.  A pool of one worker does just that: `reaches_probeAll` follows its
steps through the queue, and `mayReport_discover` says that the report of
the search is one that a pool may give, whatever the workload does.

`MayAnswer` lets every run come out in any way.  Whatever happens, the names
of an answer are candidates or essential calls (`eq_allow_of_mayAnswer`).
-/

namespace SyscallPolicy.Elimination

open Workload (RunFailure)

/-! ## A single worker -/

section Alone

variable {α : Type} {probe : α → Except RunFailure Bool} {sight : Sight} {b : Board α} {c : α}
  {rest before : List α} {required : Bool}

/-- A step of the only worker. -/
theorem Pool.step_alone {b' : Board α} {w w' : Worker α} (hact : Act probe sight b w b' w') :
    Pool.Step probe sight ⟨b, [w]⟩ ⟨b', [w']⟩ :=
  .of [] [] hact

/-- Behind a trial that could be judged the worker is idle again. -/
theorem Pool.reaches_idle (hprobe : probe c = .ok required) :
    Pool.Reaches probe sight ⟨b, [.probing c]⟩
      ⟨{ b with required := if required then c :: b.required else b.required }, [.idle]⟩ := by
  cases required with
  | false => exact .single (step_alone (.spare hprobe))
  | true => exact .head (step_alone (.find hprobe)) (.single (step_alone .note))

/-- Behind a trial that could not be judged the fault is on the board. -/
theorem Pool.reaches_ended {fault : RunFailure} (hprobe : probe c = .error fault)
    (hfault : b.fault = none) :
    Pool.Reaches probe sight ⟨b, [.probing c]⟩
      ⟨{ b with stop := true, fault := some (c, fault) }, [.ended]⟩ := by
  have hreport : b.fault.or (some (c, fault)) = some (c, fault) := by rw [hfault, Option.none_or]
  refine .head (step_alone (.fail hprobe)) (.head (step_alone .raise) ?_)
  exact hreport ▸ .single (step_alone .report)

/-- Whether a board tells how trials in order have ended, beside what was
noted before them. -/
def Board.Tells (b : Board α) (before : List α) : Except (α × RunFailure) (List α) → Prop
  | .error fault => b.fault = some fault
  | .ok found => b.fault = none ∧ ∀ c, c ∈ b.required ↔ c ∈ found ∨ c ∈ before

theorem probeAll_cons_fst (hprobe : probe c = .ok required) :
    (probeAll probe (c :: rest)).1 = c :: (probeAll probe rest).1 := by
  simp only [probeAll, hprobe]
  split <;> simp [*]

theorem Board.tells_cons (hprobe : probe c = .ok required)
    (htells : b.Tells (if required then c :: before else before) (probeAll probe rest).2) :
    b.Tells before (probeAll probe (c :: rest)).2 := by
  simp only [probeAll, hprobe]
  split
  case h_1 hrest =>
    rw [hrest] at htells
    exact htells
  case h_2 hrest =>
    rw [hrest] at htells
    refine ⟨htells.1, fun other => ?_⟩
    rw [htells.2 other]
    cases required with
    | false => rfl
    | true => simp only [if_true, List.mem_cons, or_assoc, or_left_comm]

/-- The only worker makes the trials of the queue in order. -/
theorem Pool.reaches_probeAll {candidates : List α} (hqueue : b.queue = candidates)
    (hstop : b.stop = false) (hfault : b.fault = none) :
    ∃ b', Pool.Reaches probe sight ⟨b, [.idle]⟩ ⟨b', [.ended]⟩ ∧
      b'.started = b.started ++ (probeAll probe candidates).1 ∧
      b'.Tells b.required (probeAll probe candidates).2 := by
  induction candidates generalizing b with
  | nil =>
    refine ⟨b, .single (step_alone (.leave hqueue)), ?_, hfault, fun c => ?_⟩
    · rw [probeAll, List.append_nil]
    · simp
  | cons c rest ih =>
    have hprobing : Pool.Reaches probe sight ⟨b, [.idle]⟩
        ⟨{ b with queue := rest, started := b.started ++ [c] }, [.probing c]⟩ :=
      reaches_probing [] [] hqueue hstop
    cases hprobe : probe c with
    | error fault =>
      have hended := hprobing.trans (reaches_ended hprobe hfault)
      have hfirst : probeAll probe (c :: rest) = ([c], .error (c, fault)) := by
        simp only [probeAll, hprobe]
      rw [hfirst]
      exact ⟨_, hended, rfl, rfl⟩
    | ok required =>
      obtain ⟨b', hrest, hstarted, htells⟩ := @ih ⟨rest, b.stop,
        if required then c :: b.required else b.required, b.fault, b.started ++ [c]⟩ rfl hstop
        hfault
      refine ⟨b', (hprobing.trans (reaches_idle hprobe)).trans hrest, ?_,
        Board.tells_cons hprobe htells⟩
      rw [hstarted, probeAll_cons_fst hprobe, List.append_assoc, List.singleton_append]

end Alone

/-! ## Reports and answers -/

variable {runner : Runner} {u : Universe} {workers : Nat} {sight : Sight}

/-- The answer to a board that tells how the trials in order have ended. -/
theorem answerOf_of_tells {b : Board u.Place}
    {outcome : Except (u.Place × RunFailure) (List u.Place)} (htells : b.Tells [] outcome) :
    answerOf u b.result = answerOf u outcome := by
  cases outcome with
  | error fault => rw [Board.result, show b.fault = some fault from htells]
  | ok found =>
    obtain ⟨hfault, hrequired⟩ := htells
    have hcontains : ∀ place, b.required.contains place = found.contains place := by
      intro place
      rw [Bool.eq_iff_iff, List.contains_iff_mem, List.contains_iff_mem, hrequired]
      simp
    simp only [Board.result, hfault, answerOf, Universe.reported, hcontains]

/-- The report of the search is one that a pool may give. -/
theorem mayReport_discover (s : Search) (sight : Sight) :
    MayReport s.runner s.candidates 1 sight s.discover := by
  unfold Search.discover
  cases hrun : s.runner none with
  | error failure => exact .aborted hrun
  | ok _ =>
    obtain ⟨b, hreaches, hstarted, htells⟩ := @Pool.reaches_probeAll _
      (probe s.runner s.candidates) sight { queue := s.candidates.probes } _ rfl rfl rfl
    have hstart : Pool.Reaches (probe s.runner s.candidates) sight
        (.start s.candidates.probes 1) ⟨b, [.ended]⟩ := hreaches
    have hreport := MayReport.completed hrun hstart (by simp [Pool.IsComplete])
    rw [hstarted, List.nil_append, answerOf_of_tells htells] at hreport
    exact hreport

theorem MayReport.mayAnswer {report : Report} (hreport : MayReport runner u workers sight report) :
    MayAnswer u workers report.answer := by
  cases hreport with
  | aborted => exact .aborted
  | completed _ run complete =>
    exact .completed (Pool.movesTo_of_reaches run) complete

theorem reported_subset (required : List u.Place) :
    u.reported required ⊆ u.names ++ Syscall.essential := by
  intro name hname
  rcases List.mem_append.mp hname with hname | hmissing
  · obtain ⟨place, -, rfl⟩ := List.mem_map.mp hname
    exact List.mem_append_left _ (u.nameAt_mem place)
  · exact List.mem_append_right _ (Universe.mem_missingEssentials.mp hmissing).1

/-- An answer that is no failure reports some places as required. -/
theorem exists_required_of_mayAnswer {answer : Option Rule}
    (hanswer : MayAnswer u workers (.ok answer)) :
    ∃ required, answer = some (.allow (u.reported required)) := by
  generalize hresult : Except.ok answer = result at hanswer
  cases hanswer with
  | aborted => cases hresult
  | @completed p =>
    cases hboard : p.board.result with
    | error fault =>
      rw [hboard, answerOf] at hresult
      cases hresult
    | ok required =>
      rw [hboard, answerOf] at hresult
      exact ⟨required, Except.ok.inj hresult⟩

/-- An answer that is no failure allows candidates and essential calls only. -/
theorem eq_allow_of_mayAnswer {answer : Option Rule}
    (hanswer : MayAnswer u workers (.ok answer)) :
    ∃ names, answer = some (.allow names) ∧ names ⊆ u.names ++ Syscall.essential := by
  obtain ⟨required, hreported⟩ := exists_required_of_mayAnswer hanswer
  exact ⟨u.reported required, hreported, reported_subset required⟩

end SyscallPolicy.Elimination
