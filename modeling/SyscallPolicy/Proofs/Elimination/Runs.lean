import Mathlib.Data.Finset.Card
import Mathlib.Data.Finset.SDiff
import SyscallPolicy.Proofs.Elimination.Alone
import SyscallPolicy.Proofs.Elimination.Faults
import SyscallPolicy.Proofs.FirstSeen

/-!
# What is run in a discovery

A discovery runs the workload without a profile and then, if that went well,
under profiles that withhold one candidate each.  `IsTrial` is such a profile
in terms of the candidates, `RunsTrials` says which of them a list of runs
withholds.

* `isTrial_iff` and `IsTrial.unique`: trials are what the universe says, and
  each withholds one call only;
* `exists_runsTrials` and `perm_of_isFaultFree`: the runs of any schedule, and
  that without a fault no candidate is left out;
* `runsTrials_alone`: the runs of a single worker;
* `MayReport.congr` and `MayReport.repeated`: discoveries of a workload that
  answers as another one did.  What one schedule came to, the same schedule
  comes to again.  Without faults that goes for all schedules.
-/

namespace SyscallPolicy.Elimination

open Workload (RunFailure)

variable {runner other : Runner} {u : Universe} {workers : Nat} {sight : Sight}
  {report second : Report} {names tried : List String} {c d : String} {p : Profile}

/-! ## Trials -/

/-- Whether a profile is the trial that withholds a candidate: the other
candidates are allowed in order, and behind them the essential calls that are
no candidates. -/
structure IsTrial (names : List String) (withheld : String) (p : Profile) : Prop where
  candidate : withheld ∈ names
  inessential : withheld ∉ Syscall.essential
  refuses : p.defaultAction = .errno
  anywhere : p.architectures = []
  rules : p.rules =
    [.allow (names.filter (· ≠ withheld) ++ Syscall.essential.filter (· ∉ names))]
  nodup : p.allNames.Nodup
  essential : Syscall.essential ⊆ p.allNames
  mem_iff : ∀ name, name ∈ p.allNames ↔
    (name ∈ names ∨ name ∈ Syscall.essential) ∧ name ≠ withheld

theorem trialNames_eq (u : Universe) (withheld : String) : u.trialNames withheld =
    u.names.filter (· ≠ withheld) ++ Syscall.essential.filter (· ∉ u.names) := by
  have hkept : (fun name : String => name != withheld) = fun name => decide (name ≠ withheld) := by
    funext name
    rw [Bool.eq_iff_iff, bne_iff_ne, decide_eq_true_iff]
  have hmissing : (fun name => !u.names.contains name) = fun name => decide (name ∉ u.names) := by
    funext name
    simp
  rw [Universe.trialNames, Universe.missingEssentials, exclude, hkept, hmissing]

theorem isTrial_iff : IsTrial u.names c p ↔
    (c ∈ u.names ∧ c ∉ Syscall.essential) ∧ u.trial c = p := by
  constructor
  · intro h
    refine ⟨⟨h.candidate, h.inessential⟩, ?_⟩
    obtain ⟨action, architectures, rules⟩ := p
    obtain rfl : action = .errno := h.refuses
    obtain rfl : architectures = [] := h.anywhere
    obtain rfl := h.rules
    rw [Universe.trial, trialNames_eq]
  · rintro ⟨⟨hcandidate, hinessential⟩, rfl⟩
    have hmem : ∀ name, name ∈ (u.trial c).allNames ↔
        (name ∈ u.names ∨ name ∈ Syscall.essential) ∧ name ≠ c := by
      intro name
      rw [Universe.allNames_trial, Universe.mem_trialNames hcandidate]
    refine ⟨hcandidate, hinessential, rfl, rfl, ?_, ?_, fun name hname => ?_, hmem⟩
    · rw [Universe.trial, trialNames_eq]
    · rw [Universe.allNames_trial]
      exact Universe.nodup_append_missingEssentials List.filter_sublist
    · exact (hmem name).mpr ⟨.inr hname, fun heq => hinessential (heq ▸ hname)⟩

theorem IsTrial.unique (hc : IsTrial names c p) (hd : IsTrial names d p) : c = d := by
  by_contra hne
  have hmem : c ∈ p.allNames := (hd.mem_iff c).mpr ⟨.inl hc.candidate, hne⟩
  exact ((hc.mem_iff c).mp hmem).2 rfl

/-- Whether the runs are one without a profile and the trials that withhold
these calls. -/
def RunsTrials (names tried : List String) (runs : List (Option Profile)) : Prop :=
  ∃ trials : List Profile,
    runs = none :: trials.map some ∧ List.Forall₂ (IsTrial names) tried trials

theorem runsTrials_iff {runs : List (Option Profile)} : RunsTrials u.names tried runs ↔
    (∀ c ∈ tried, c ∈ u.names ∧ c ∉ Syscall.essential) ∧
      runs = none :: tried.map fun c => some (u.trial c) := by
  have htrials (trials : List Profile) : List.Forall₂ (IsTrial u.names) tried trials ↔
      (∀ c ∈ tried, c ∈ u.names ∧ c ∉ Syscall.essential) ∧ tried.map u.trial = trials := by
    have hsplit : IsTrial u.names = fun c p =>
        (c ∈ u.names ∧ c ∉ Syscall.essential) ∧ u.trial c = p := by
      funext c p
      exact propext isTrial_iff
    rw [hsplit, List.forall₂_and_left, ← List.forall₂_map_left_iff, List.forall₂_eq_eq_eq]
  simp only [RunsTrials, htrials]
  constructor
  · rintro ⟨trials, rfl, htried, rfl⟩
    exact ⟨htried, by rw [List.map_map]; rfl⟩
  · rintro ⟨htried, rfl⟩
    exact ⟨_, by rw [List.map_map]; rfl, htried, rfl⟩

/-! ## The runs of any schedule -/

/-- Whether a discovery does not end with a trial that could not be run. -/
def Report.IsFaultFree (report : Report) : Prop :=
  ∀ name cause, report.answer ≠ .error (.probeHarness name cause)

theorem mayReport_aborted_iff {failure : RunFailure} (hrun : runner none = .error failure) :
    MayReport runner u workers sight report ↔
      report = ⟨[none], .error (.executionAborted failure)⟩ := by
  constructor
  · intro hreport
    cases hreport with
    | aborted fails => rw [Except.error.inj (hrun.symm.trans fails)]
    | completed succeeds => cases hrun.symm.trans succeeds
  · rintro rfl
    exact .aborted hrun

theorem Universe.nameAt_injective : Function.Injective u.nameAt :=
  fun _ _ heq => Fin.ext ((List.Nodup.getElem_inj_iff u.nodup).mp heq)

theorem isEssential_eq_false_iff : Syscall.isEssential c = false ↔ c ∉ Syscall.essential := by
  simp [Syscall.isEssential]

/-- What is probed, by name. -/
theorem Universe.map_nameAt_probes :
    u.probes.map u.nameAt = u.names.filter (· ∉ Syscall.essential) := by
  have hprobed (place : u.Place) : (!Syscall.isEssential (u.nameAt place)) =
      decide (u.nameAt place ∉ Syscall.essential) := by
    rw [Bool.eq_iff_iff, Bool.not_eq_true', isEssential_eq_false_iff, decide_eq_true_iff]
  conv_rhs => rw [← u.map_nameAt, List.filter_map]
  simp only [probes, hprobed]
  rfl

theorem runsTrials_runsOf {probed : List u.Place} (hprobed : probed ⊆ u.probes) :
    RunsTrials u.names (probed.map u.nameAt) (runsOf u probed) := by
  refine runsTrials_iff.mpr ⟨fun c hc => ?_, ?_⟩
  · obtain ⟨place, hplace, rfl⟩ := List.mem_map.mp hc
    exact ⟨u.nameAt_mem place,
      isEssential_eq_false_iff.mp (Universe.mem_probes.mp (hprobed hplace))⟩
  · rw [runsOf, List.map_map]
    rfl

theorem exists_runsTrials (hrun : runner none = .ok ())
    (hreport : MayReport runner u workers sight report) :
    ∃ tried, RunsTrials u.names tried report.runs ∧ tried.Nodup := by
  obtain ⟨p, hinv, -, -, rfl⟩ := mayReport_cases hreport hrun
  have hstarted : p.board.started.Nodup := by
    refine List.nodup_iff_count_le_one.mpr fun place => ?_
    have hle := hinv.atMostOnce place
    have hprobes := List.nodup_iff_count_le_one.mp Universe.nodup_probes place
    rw [Pool.tally] at hle
    omega
  exact ⟨_, runsTrials_runsOf fun _ => hinv.mem_candidates,
    hstarted.map Universe.nameAt_injective⟩

/-- Without a fault all candidates that are not essential are withheld. -/
theorem perm_of_isFaultFree (hrun : runner none = .ok ()) (hworkers : 0 < workers)
    (hreport : MayReport runner u workers sight report) (hfree : report.IsFaultFree) :
    ∃ tried, RunsTrials u.names tried report.runs ∧
      tried.Perm (u.names.filter (· ∉ Syscall.essential)) := by
  obtain ⟨p, hinv, hcomplete, hlength, rfl⟩ := mayReport_cases hreport hrun
  have hsome : p.workers ≠ [] := List.ne_nil_of_length_pos (hlength ▸ hworkers)
  have hstop : p.board.stop = false := by
    by_contra hup
    have hfault := hinv.fault_of_stop hcomplete (by simpa using hup)
    obtain ⟨⟨place, cause⟩, hfound⟩ := Option.isSome_iff_exists.mp hfault
    exact hfree (u.nameAt place) cause
      (answerOf_eq_probeHarness_iff.mpr ⟨place, board_result_eq_error_iff.mpr hfound, rfl⟩)
  have hperm : p.board.started.Perm u.probes :=
    List.perm_iff_count.mpr (hinv.started_count hcomplete hsome hstop)
  exact ⟨_, runsTrials_runsOf hperm.subset, Universe.map_nameAt_probes ▸ hperm.map u.nameAt⟩

/-- The runs of a discovery without faults, counted. -/
theorem length_runs (hrun : runner none = .ok ()) (hworkers : 0 < workers)
    {candidates : List String}
    (hreport : MayReport runner (.ofList candidates) workers sight report)
    (hfree : report.IsFaultFree) :
    report.runs.length = 1 + (candidates.toFinset \ Syscall.essential.toFinset).card := by
  obtain ⟨tried, hruns, hperm⟩ := perm_of_isFaultFree hrun hworkers hreport hfree
  have hset : candidates.toFinset \ Syscall.essential.toFinset =
      ((Universe.ofList candidates).names.filter (· ∉ Syscall.essential)).toFinset := by
    ext name
    simp [Universe.mem_ofList]
  have hnodup := (Universe.ofList candidates).nodup.filter (· ∉ Syscall.essential)
  rw [(runsTrials_iff.mp hruns).2, hset, List.toFinset_card_of_nodup hnodup, List.length_cons,
    List.length_map, hperm.length_eq, Nat.add_comm]

theorem isFaultFree_iff (hrun : runner none = .ok ()) (hworkers : 0 < workers)
    (hreport : MayReport runner u workers sight report) : report.IsFaultFree ↔
      ∀ name ∈ u.names.filter (· ∉ Syscall.essential), ∀ cause, ¬IsFaulty runner u name cause := by
  simp only [List.mem_filter, decide_eq_true_eq]
  constructor
  · rintro hfree name ⟨hname, hinessential⟩ cause hfaulty
    obtain ⟨other, fault, hanswer⟩ := answer_of_isFaulty hrun hworkers hreport hname
      (isEssential_eq_false_iff.mpr hinessential) hfaulty
    exact hfree other fault hanswer
  · intro hjudged name cause hanswer
    obtain ⟨hname, hprobed, -, hfaulty⟩ := isFaulty_of_answer hrun hreport hanswer
    exact hjudged name ⟨hname, isEssential_eq_false_iff.mp hprobed⟩ cause hfaulty

/-! ## The runs of a single worker -/

/-- A single worker withholds the candidates in order, up to the first whose
trial could not be run. -/
theorem runsTrials_alone (hrun : runner none = .ok ())
    (hreport : MayReport runner u 1 sight report) :
    report.IsFaultFree ∧
        RunsTrials u.names (u.names.filter (· ∉ Syscall.essential)) report.runs ∨
      ∃ before name after cause,
        u.names.filter (· ∉ Syscall.essential) = before ++ name :: after ∧
        (∀ earlier ∈ before, ∀ cause, ¬IsFaulty runner u earlier cause) ∧
        IsFaulty runner u name cause ∧ RunsTrials u.names (before ++ [name]) report.runs ∧
        report.answer = .error (.probeHarness name cause) := by
  have hdiscover : report = (Search.mk runner u 1).discover :=
    (mayReport_one_iff ⟨runner, u, 1⟩).mp hreport
  rw [← Universe.map_nameAt_probes]
  rcases probeAll_cases (probe runner u) u.probes with
    ⟨-, found, hall⟩ | ⟨before, place, after, cause, hprobes, hjudged, hfault, hfirst⟩
  · simp only [Search.discover, hrun, hall] at hdiscover
    subst hdiscover
    refine .inl ⟨fun name cause hanswer => ?_, runsTrials_runsOf (List.Subset.refl _)⟩
    cases hanswer
  · simp only [Search.discover, hrun, hfirst] at hdiscover
    subst hdiscover
    have htried : before ++ [place] ⊆ u.probes := by
      rw [hprobes]
      exact List.append_subset.mpr ⟨List.subset_append_left _ _, by simp⟩
    refine .inr ⟨before.map u.nameAt, u.nameAt place, after.map u.nameAt, cause, ?_, ?_,
      isRequired_eq_error_iff.mp hfault, ?_, rfl⟩
    · rw [hprobes, List.map_append, List.map_cons]
    · intro earlier hearlier cause hfaulty
      obtain ⟨place', hplace', rfl⟩ := List.mem_map.mp hearlier
      exact hjudged place' hplace' cause (isRequired_eq_error_iff.mpr hfaulty)
    · have hruns := runsTrials_runsOf htried
      rwa [List.map_append, List.map_singleton] at hruns

/-! ## Discoveries made again -/

section Congr

variable {α : Type} {probe probe' : α → Except RunFailure Bool} {b b' : Board α} {w w' : Worker α}

/-- A step hangs on no trial but one that was started. -/
theorem Act.congr (act : Act probe sight b w b' w') (hknows : w.Knows probe b)
    (hsame : ∀ c ∈ b.started, probe' c = probe c) : Act probe' sight b w b' w' := by
  cases act with
  | take next => exact .take next
  | leave empty => exact .leave empty
  | goOn clear => exact .goOn clear
  | heed raised => exact .heed raised
  | start => exact .start
  | spare outcome => exact .spare ((hsame _ hknows).trans outcome)
  | find outcome => exact .find ((hsame _ hknows).trans outcome)
  | note => exact .note
  | fail outcome => exact .fail ((hsame _ hknows).trans outcome)
  | raise => exact .raise
  | report => exact .report

theorem Pool.reaches_congr [DecidableEq α] {candidates : List α} {p : Pool α}
    (hrun : Pool.Reaches probe sight (.start candidates workers) p)
    (hsame : ∀ c ∈ p.board.started, probe' c = probe c) :
    Pool.Reaches probe' sight (.start candidates workers) p := by
  induction hrun with
  | refl => exact .refl
  | tail hpath hstep ih =>
    have hinv := poolInvariant_of_reaches hpath
    obtain @⟨b, b', w, w', before, after, act⟩ := hstep
    have hearlier : ∀ c ∈ b.started, probe' c = probe c :=
      fun c hc => hsame c (act.grows.started.subset hc)
    exact (ih hearlier).tail (.of before after (act.congr (hinv.knows w (by simp)) hearlier))

end Congr

/-- What one schedule came to for a workload, it comes to for another one that
answers the same in the runs that were made. -/
theorem MayReport.congr (hreport : MayReport runner u workers sight report)
    (hsame : ∀ run ∈ report.runs, other run = runner run) :
    MayReport other u workers sight report := by
  have hnone (runs : List (Option Profile)) (h : ∀ run ∈ none :: runs, other run = runner run) :
      other none = runner none := h none List.mem_cons_self
  cases hreport with
  | aborted fails => exact .aborted ((hnone _ hsame).trans fails)
  | completed succeeds run complete =>
    refine .completed ((hnone _ hsame).trans succeeds) (Pool.reaches_congr run ?_) complete
    intro place hplace
    have htrial : other (some (u.trial (u.nameAt place))) =
        runner (some (u.trial (u.nameAt place))) :=
      hsame _ (List.mem_cons_of_mem _ (List.mem_map.mpr ⟨place, hplace, rfl⟩))
    rw [probe, probe, isRequired, isRequired, htrial]

/-- A discovery without faults has asked all that another schedule could ask. -/
theorem agrees_of_isFaultFree (hrun : runner none = .ok ()) (hworkers : 0 < workers)
    (hreport : MayReport runner u workers sight report) (hfree : report.IsFaultFree)
    (hsame : ∀ run ∈ report.runs, other run = runner run) : other none = runner none ∧
      ∀ c ∈ u.names.filter (· ∉ Syscall.essential),
        other (some (u.trial c)) = runner (some (u.trial c)) := by
  obtain ⟨tried, hruns, hperm⟩ := perm_of_isFaultFree hrun hworkers hreport hfree
  rw [(runsTrials_iff.mp hruns).2] at hsame
  obtain ⟨hnone, htrials⟩ := List.forall_mem_cons.mp hsame
  exact ⟨hnone, fun c hc => htrials _ (List.mem_map.mpr ⟨c, hperm.mem_iff.mpr hc, rfl⟩)⟩

/-- Workloads that agree on the runs there can be have the same reports. -/
theorem MayReport.of_agrees (hrun : other none = .ok ()) (hnone : other none = runner none)
    (htrials : ∀ c ∈ u.names.filter (· ∉ Syscall.essential),
      other (some (u.trial c)) = runner (some (u.trial c)))
    (hreport : MayReport other u workers sight report) :
    MayReport runner u workers sight report := by
  obtain ⟨tried, hruns, -⟩ := exists_runsTrials hrun hreport
  obtain ⟨htried, hruns⟩ := runsTrials_iff.mp hruns
  refine hreport.congr ?_
  rw [hruns]
  refine List.forall_mem_cons.mpr ⟨hnone.symm, fun run hmem => ?_⟩
  obtain ⟨c, hc, rfl⟩ := List.mem_map.mp hmem
  exact (htrials c (by simpa using htried c hc)).symm

/-- Without faults all schedules make the same runs, with the same answer. -/
theorem MayReport.eq_of_isFaultFree (hrun : runner none = .ok ()) (hworkers : 0 < workers)
    (hreport : MayReport runner u workers sight report) (hfree : report.IsFaultFree)
    (hsecond : MayReport runner u workers sight second) :
    second.answer = report.answer ∧ second.runs.Perm report.runs := by
  have hjudged := (isFaultFree_iff hrun hworkers hreport).mp hfree
  have hprobes : ∀ place ∈ u.probes, ∀ fault, probe runner u place ≠ .error fault := by
    intro place hplace fault hfault
    refine hjudged (u.nameAt place) ?_ fault (isRequired_eq_error_iff.mp hfault)
    exact Universe.map_nameAt_probes ▸ List.mem_map_of_mem hplace
  refine ⟨?_, ?_⟩
  · rw [answer_of_judged hrun hprobes hworkers hreport,
      answer_of_judged hrun hprobes hworkers hsecond]
  · have hfree' := (isFaultFree_iff hrun hworkers hsecond).mpr hjudged
    obtain ⟨tried, hruns, hperm⟩ := perm_of_isFaultFree hrun hworkers hreport hfree
    obtain ⟨tried', hruns', hperm'⟩ := perm_of_isFaultFree hrun hworkers hsecond hfree'
    rw [(runsTrials_iff.mp hruns).2, (runsTrials_iff.mp hruns').2]
    exact ((hperm'.trans hperm.symm).map _).cons none

theorem MayReport.repeated (hworkers : 0 < workers)
    (hreport : MayReport runner u workers sight report) (hfree : report.IsFaultFree)
    (hsame : ∀ run ∈ report.runs, other run = runner run)
    (hsecond : MayReport other u workers sight second) :
    second.answer = report.answer ∧ second.runs.Perm report.runs := by
  cases hrun : runner none with
  | error failure =>
    obtain rfl := (mayReport_aborted_iff hrun).mp hreport
    have hother : other none = .error failure := (hsame none List.mem_cons_self).trans hrun
    obtain rfl := (mayReport_aborted_iff hother).mp hsecond
    exact ⟨rfl, .refl _⟩
  | ok =>
    obtain ⟨hnone, htrials⟩ := agrees_of_isFaultFree hrun hworkers hreport hfree hsame
    exact hreport.eq_of_isFaultFree hrun hworkers hfree
      (hsecond.of_agrees (hnone.trans hrun) hnone htrials)

/-- A discovery runs the workload without a profile; if that fails, it ends
there.  All further runs are trials that withhold one candidate each, by
several workers in any order, by one in the order of the candidates and up to
the first fault.  A discovery that meets no fault leaves none out.

For a workload that answers as before, the same schedule makes the same runs
again.  Another schedule does so too, if there is one worker, and up to the
order of the runs, if there is no fault; which of several faults is met first
is up to the schedule. -/
theorem runs_of_discovery (runner : Runner) (candidates : List String) (workers : Nat)
    (sight : Sight) (hworkers : 0 < workers) :
    ∃ names, IsFirstSeen names candidates ∧
      (∀ c d p, IsTrial names c p → IsTrial names d p → c = d) ∧
      (∀ parallel, MayReport runner (.ofList candidates) 1 sight
        (Search.mk runner (.ofList candidates) parallel).discover) ∧
      (∀ failure, runner none = .error failure → ∀ report,
        MayReport runner (.ofList candidates) workers sight report ↔
          report = ⟨[none], .error (.executionAborted failure)⟩) ∧
      (runner none = .ok () →
        (∃ report, MayReport runner (.ofList candidates) workers sight report) ∧
        ∀ report, MayReport runner (.ofList candidates) workers sight report →
          (∃ tried, RunsTrials names tried report.runs ∧ tried.Nodup) ∧
          (report.IsFaultFree → report.runs.length =
            1 + (candidates.toFinset \ Syscall.essential.toFinset).card) ∧
          (workers = 1 →
            report.IsFaultFree ∧
                RunsTrials names (names.filter (· ∉ Syscall.essential)) report.runs ∨
              ∃ before name after cause,
                names.filter (· ∉ Syscall.essential) = before ++ name :: after ∧
                (∀ earlier ∈ before, ∀ cause,
                  ¬IsFaulty runner (.ofList candidates) earlier cause) ∧
                IsFaulty runner (.ofList candidates) name cause ∧
                RunsTrials names (before ++ [name]) report.runs ∧
                report.answer = .error (.probeHarness name cause))) ∧
      ∀ report, MayReport runner (.ofList candidates) workers sight report →
        ∀ other : Runner, (∀ run ∈ report.runs, other run = runner run) →
          MayReport other (.ofList candidates) workers sight report ∧
          (workers = 1 → ∀ second,
            MayReport other (.ofList candidates) workers sight second → second = report) ∧
          (report.IsFaultFree → ∀ second,
            MayReport other (.ofList candidates) workers sight second →
              second.answer = report.answer ∧ second.runs.Perm report.runs) := by
  refine ⟨(Universe.ofList candidates).names, isFirstSeen_eraseDups candidates,
    fun c d p => IsTrial.unique, fun parallel => mayReport_discover ⟨runner, _, parallel⟩ sight,
    fun failure hrun report => mayReport_aborted_iff hrun, ?_, ?_⟩
  · intro hrun
    refine ⟨exists_mayReport (.ofList candidates) workers sight hrun, fun report hreport =>
      ⟨exists_runsTrials hrun hreport, length_runs hrun hworkers hreport, ?_⟩⟩
    rintro rfl
    exact runsTrials_alone hrun hreport
  · intro report hreport other hsame
    refine ⟨hreport.congr hsame, ?_, fun hfree second => hreport.repeated hworkers hfree hsame⟩
    rintro rfl second hsecond
    have hfirst := (mayReport_one_iff ⟨other, .ofList candidates, 1⟩).mp (hreport.congr hsame)
    rw [hfirst]
    exact (mayReport_one_iff ⟨other, .ofList candidates, 1⟩).mp hsecond

/-- One worker stops at the trial without `mmap`, whenever it is asked; two
workers make all trials of a workload that can always be judged. -/
theorem runs_up_to_mmap :
    0 < 1 ∧ 0 < 2 ∧ workingIn [["read"]] none = .ok () ∧
    (∃ report, MayReport (unlaunchableWithout "mmap")
        (.ofList ["read", "close", "read", "mmap", "write"]) 1 .stale report ∧
      report.runs = [none,
        some ⟨.errno, [],
          [.allow ["close", "mmap", "write", "exit", "exit_group", "execve", "futex"]]⟩,
        some ⟨.errno, [],
          [.allow ["read", "close", "write", "exit", "exit_group", "execve", "futex"]]⟩] ∧
      ∀ second, MayReport (unlaunchableWithout "mmap")
        (.ofList ["read", "close", "read", "mmap", "write"]) 1 .stale second → second = report) ∧
    (∃ report, MayReport (workingIn [["read"]])
      (.ofList ["read", "close", "read", "mmap", "write"]) 2 .stale report) ∧
    ∀ report, MayReport (workingIn [["read"]])
        (.ofList ["read", "close", "read", "mmap", "write"]) 2 .stale report →
      report.IsFaultFree → report.runs.length = 4 := by
  obtain ⟨_, -, -, hdiscover, -, -, hagain⟩ := runs_of_discovery (unlaunchableWithout "mmap")
    ["read", "close", "read", "mmap", "write"] 1 .stale (by decide)
  obtain ⟨_, -, -, -, -, hruns, -⟩ := runs_of_discovery (workingIn [["read"]])
    ["read", "close", "read", "mmap", "write"] 2 .stale (by decide)
  obtain ⟨hexists, hcount⟩ := hruns rfl
  refine ⟨by decide, by decide, rfl, ⟨_, hdiscover 1, by decide +kernel, ?_⟩, hexists, ?_⟩
  · exact (hagain _ (hdiscover 1) (unlaunchableWithout "mmap") fun _ _ => rfl).2.1 rfl
  · intro report hreport hfree
    rw [(hcount report hreport).2.1 hfree]
    decide +kernel

end SyscallPolicy.Elimination
