import SyscallPolicy.Proofs.Elimination.Repeated
import SyscallPolicy.Proofs.Elimination.Sequential
import SyscallPolicy.Proofs.Synthesis.Canonical
import SyscallPolicy.Workload.Rehearsal

/-!
# Policies of reordered candidates

A search works on places, and the places of two lists of the same candidates
have nothing to do with one another.  What it asks of the workload has: the
trial without a call allows the same names in both, if in another order
(`mem_allNames_trial_iff`).  So the trials come out alike
(`failsWithout_congr`), the same calls are discovered (`perm_discovered`), and
the profile that is made from them does not keep their order.

For this the workload may be of any kind, as long as it takes an allow list
for the set of its names.  Described workloads do (`Rehearsal.isExtensional`).
-/

namespace SyscallPolicy

open Elimination

variable {runner : Runner} {u v : Universe} {name : String}

/-! ## Described workloads -/

namespace Workload.Rehearsal

variable {r : Rehearsal} {names found : List String}

theorem fits_congr (hnames : ∀ name, name ∈ names ↔ name ∈ found) : fits names = fits found := by
  have hcontains : names.contains = found.contains := by
    funext name
    rw [Bool.eq_iff_iff, List.contains_iff_mem, List.contains_iff_mem, hnames]
  funext c
  unfold fits
  rw [hcontains]

/-- The outcomes that a description lists are the only ones. -/
theorem run_some_cases (r : Rehearsal) (p : Profile) :
    r.run (some p) = r.otherwise ∨ ∃ c ∈ r.table, r.run (some p) = c.outcome := by
  rw [run]
  cases hfound : r.table.find? (fits p.allNames) with
  | none => exact .inl rfl
  | some c => exact .inr ⟨c, List.mem_of_find?_eq_some hfound, rfl⟩

/-- A described workload looks at names only. -/
theorem isExtensional (hrun : r.unconstrained = .ok ())
    (hotherwise : ∀ failure, r.otherwise = .error failure → failure.isHarnessFault = false)
    (htable : ∀ c ∈ r.table, ∀ failure, c.outcome = .error failure →
      failure.isHarnessFault = false) : Runner.IsExtensional r.run where
  unconstrained := hrun
  judged p failure hfailure := by
    rcases r.run_some_cases p with hcase | ⟨c, hc, hcase⟩
    · exact hotherwise failure (hcase.symm.trans hfailure)
    · exact htable c hc failure (hcase.symm.trans hfailure)
  congr p q _ _ hnames := by
    rw [run, run, fits_congr hnames]

end Workload.Rehearsal

/-! ## Trials of the same candidates -/

namespace Elimination

section Same

variable (hsame : ∀ name, name ∈ u.names ↔ name ∈ v.names)
include hsame

theorem mem_allNames_trial_iff (hname : name ∈ u.names) (other : String) :
    other ∈ (u.trial name).allNames ↔ other ∈ (v.trial name).allNames := by
  rw [Universe.allNames_trial, Universe.allNames_trial, Universe.mem_trialNames hname,
    Universe.mem_trialNames ((hsame name).mp hname), hsame]

theorem failsWithout_congr (hext : runner.IsExtensional) (hname : name ∈ u.names) :
    failsWithout runner u name = failsWithout runner v name := by
  unfold failsWithout
  rw [hext.congr (u.trial name) (v.trial name) Profile.isAllowList_ofRule
    Profile.isAllowList_ofRule (mem_allNames_trial_iff hsame hname)]

theorem mem_discovered_congr (hext : runner.IsExtensional) (name : String) :
    name ∈ discovered runner u ↔ name ∈ discovered runner v := by
  rw [mem_discovered, mem_discovered, ← hsame]
  refine or_congr_right (and_congr_right fun hname => ?_)
  rw [failsWithout_congr hsame hext hname]

theorem perm_discovered (hext : runner.IsExtensional) :
    (discovered runner u).Perm (discovered runner v) :=
  (List.perm_ext_iff_of_nodup nodup_discovered nodup_discovered).mpr
    (mem_discovered_congr hsame hext)

end Same

end Elimination

/-- Searches of the same candidates, in whichever order and however often each
is listed, by any numbers of workers and in any schedules: they discover the
same calls, and any source that answers as one of them leads to the same
profile. -/
theorem policy_of_reordered_candidates (runner : Runner) (candidates others : List String)
    (hsame : ∀ name, name ∈ candidates ↔ name ∈ others) (workers workers' : Nat)
    (sight sight' : Sight) (hext : runner.IsExtensional) (hworkers : 0 < workers)
    (hworkers' : 0 < workers') :
    (∃ report, MayReport runner (.ofList candidates) workers sight report) ∧
    (∃ report, MayReport runner (.ofList others) workers' sight' report) ∧
    ∀ report other, MayReport runner (.ofList candidates) workers sight report →
      MayReport runner (.ofList others) workers' sight' other →
        ∃ names found, report.answer = .ok (some (.allow names)) ∧
          other.answer = .ok (some (.allow found)) ∧ names.Perm found ∧
          ∀ settings, ∃ p, ∀ {σ : Type} [DiscoverySource σ] (source : σ),
            (DiscoverySource.query source).1 = report.answer ∨
              (DiscoverySource.query source).1 = other.answer →
            (Synthesizer.mk source settings).profile.1 = .ok (some p) := by
  have hrun := hext.unconstrained
  refine ⟨exists_mayReport _ workers sight hrun, exists_mayReport _ workers' sight' hrun,
    fun report other hreport hother => ?_⟩
  have hanswer := answer_of_isSound hext.toIsSound hworkers hreport
  have hanswer' := answer_of_isSound hext.toIsSound hworkers' hother
  have huniverses : ∀ name, name ∈ (Universe.ofList candidates).names ↔
      name ∈ (Universe.ofList others).names := by
    intro name
    rw [Universe.mem_ofList, Universe.mem_ofList, hsame]
  have hperm := perm_discovered huniverses hext
  refine ⟨_, _, hanswer, hanswer', hperm, fun settings => ?_⟩
  obtain ⟨p, hprofile⟩ : ∃ p, synthesize settings
      (some (.allow (discovered runner (.ofList candidates)))) = some p :=
    ⟨_, synthesize_allow settings discovered_ne_nil⟩
  have hprofile' : synthesize settings
      (some (.allow (discovered runner (.ofList others)))) = some p := by
    rw [← hprofile]
    exact synthesize_congr settings rfl fun name => hperm.symm.mem_iff
  refine ⟨p, fun source hsource => ?_⟩
  rw [Synthesizer.profile_answer]
  rcases hsource with hsource | hsource
  · rw [hsource, hanswer, Except.map, hprofile]
  · rw [hsource, hanswer', Except.map, hprofile']

/-- A workload that breaks off if it may open files in two ways also seems to
need what lets it come that far.  A search in order and a pool of three
workers list its calls differently and lead to the same profile. -/
theorem policy_of_confused_workload : ∃ (r : Workload.Rehearsal) (p : Profile),
    r = ⟨.ok (), [⟨["read"], [], .error (.exited 1)⟩, ⟨[], ["open", "openat"], .error .signalled⟩],
      .ok ()⟩ ∧
    (∀ name, name ∈ ["open", "read", "openat", "write", "read"] ↔
      name ∈ ["write", "openat", "read", "open"]) ∧
    Runner.IsExtensional r.run ∧ ¬Runner.IsMonotone r.run ∧ 0 < 1 ∧ 0 < 3 ∧
    (Search.mk r.run (.ofList ["open", "read", "openat", "write", "read"]) 1).discover.answer =
      .ok (some (.allow ["read", "write", "close", "exit", "exit_group", "execve", "futex"])) ∧
    (Synthesizer.mk (Search.mk r.run (.ofList ["open", "read", "openat", "write", "read"]) 1)
      ⟨["amd64"], false⟩).profile.1 = .ok (some p) ∧
    ∀ other, MayReport r.run (.ofList ["write", "openat", "read", "open"]) 3 .stale other →
      other.answer = .ok (some (.allow
        ["write", "read", "close", "exit", "exit_group", "execve", "futex"])) ∧
      (Synthesizer.mk (RecordedSource.mk [other.answer]) ⟨["amd64"], false⟩).profile.1 =
        .ok (some p) := by
  obtain ⟨r, hr⟩ : ∃ r : Workload.Rehearsal, r = ⟨.ok (),
    [⟨["read"], [], .error (.exited 1)⟩, ⟨[], ["open", "openat"], .error .signalled⟩], .ok ()⟩ :=
    ⟨_, rfl⟩
  have hsame : ∀ name, name ∈ ["open", "read", "openat", "write", "read"] ↔
      name ∈ ["write", "openat", "read", "open"] := by
    intro name
    simp only [List.mem_cons, List.not_mem_nil, or_false]
    tauto
  have hext : Runner.IsExtensional r.run := by
    subst hr
    refine Workload.Rehearsal.isExtensional rfl (fun failure h => by cases h) ?_
    simp [Workload.RunFailure.isHarnessFault]
  have hmono : ¬Runner.IsMonotone r.run := by
    subst hr
    intro hmono
    have hmore := hmono.mono (allowing ["read", "open"]) (allowing ["read", "open", "openat"])
      Profile.isAllowList_ofRule Profile.isAllowList_ofRule (by decide) (by decide)
    revert hmore
    decide
  obtain ⟨-, ⟨first, hfirst⟩, hpolicy⟩ := policy_of_reordered_candidates r.run
    ["open", "read", "openat", "write", "read"] ["write", "openat", "read", "open"] hsame 1 3
    .current .stale hext (by decide) (by decide)
  have hreport := mayReport_discover
    ⟨r.run, .ofList ["open", "read", "openat", "write", "read"], 1⟩ .current
  have hfound : discovered r.run (.ofList ["open", "read", "openat", "write", "read"]) =
      ["read", "write", "close", "exit", "exit_group", "execve", "futex"] := by
    subst hr
    decide +kernel
  have hfound' : discovered r.run (.ofList ["write", "openat", "read", "open"]) =
      ["write", "read", "close", "exit", "exit_group", "execve", "futex"] := by
    subst hr
    decide +kernel
  have hanswer := answer_of_isSound hext.toIsSound (by decide) hreport
  obtain ⟨_, _, -, -, -, hprofile⟩ := hpolicy _ first hreport hfirst
  obtain ⟨p, hp⟩ := hprofile ⟨["amd64"], false⟩
  refine ⟨r, p, hr, hsame, hext, hmono, by decide, by decide, hfound ▸ hanswer,
    hp _ (.inl rfl), fun other hother => ⟨?_, ?_⟩⟩
  · rw [answer_of_isSound hext.toIsSound (by decide) hother, hfound']
  · obtain ⟨_, _, -, -, -, hprofile'⟩ := hpolicy _ other hreport hother
    obtain ⟨q, hq⟩ := hprofile' ⟨["amd64"], false⟩
    have hsearch := (hp (Search.mk r.run
      (.ofList ["open", "read", "openat", "write", "read"]) 1) (.inl rfl)).symm.trans
        (hq _ (.inl rfl))
    rw [hsearch]
    exact hq _ (.inr rfl)

end SyscallPolicy
