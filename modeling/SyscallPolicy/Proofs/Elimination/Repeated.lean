import SyscallPolicy.Proofs.Elimination.Sufficient

/-!
# Searches of what was found

The calls that a search found are candidates for another search, which makes
other trials: each of them allows only what was found, without one call.  A
workload that keeps working when more is allowed fails in all of these, since
it failed when more was allowed (`failsWithout_of_subset`).

So nothing falls away in the second search.  `discovered_eq_names_iff` says
which universes are found as they stand, in order and to the last name; what
a search found is one of them (`discovered_discovered`).
-/

namespace SyscallPolicy.Elimination

variable {runner : Runner} {u v : Universe} {name : String}

theorem nodup_discovered : (discovered runner u).Nodup := by
  rw [discovered_eq]
  exact Universe.nodup_append_missingEssentials List.filter_sublist

theorem names_ofList_discovered :
    (Universe.ofList (discovered runner u)).names = discovered runner u :=
  Universe.names_ofList_of_nodup nodup_discovered

/-- A universe is found as it stands if it names the essential calls and no
other candidate of it can be left out. -/
theorem discovered_eq_names_iff :
    discovered runner u = u.names ↔ Syscall.essential ⊆ u.names ∧
      ∀ name ∈ u.names, name ∈ Syscall.essential ∨ failsWithout runner u name = true := by
  refine ⟨fun heq => ⟨fun name hname => ?_, fun name hname => ?_⟩, ?_⟩
  · exact heq ▸ mem_discovered.mpr (Or.inl hname)
  · rw [← heq] at hname
    exact (mem_discovered.mp hname).imp_right And.right
  · rintro ⟨hessential, hneeded⟩
    have hall : (u.names.filter fun name =>
        Syscall.isEssential name || failsWithout runner u name) = u.names := by
      refine List.filter_eq_self.mpr fun name hname => ?_
      simpa [Syscall.isEssential] using hneeded name hname
    have hnone : u.missingEssentials = [] := by
      refine List.eq_nil_iff_forall_not_mem.mpr fun name hname => ?_
      obtain ⟨hmem, hmissing⟩ := Universe.mem_missingEssentials.mp hname
      exact hmissing (hessential hmem)
    rw [discovered_eq, hall, hnone, List.append_nil]

section Monotone

variable (hmono : runner.IsMonotone)
include hmono

/-- A candidate whose trial failed fails again in a search of fewer calls. -/
theorem failsWithout_of_subset (hsub : v.names ⊆ u.names ++ Syscall.essential)
    (hu : name ∈ u.names) (hv : name ∈ v.names) (hfails : failsWithout runner u name = true) :
    failsWithout runner v name = true := by
  have hallowed : (v.trial name).allNames ⊆ u.names ++ Syscall.essential := by
    intro other hother
    rw [Universe.allNames_trial, Universe.mem_trialNames hv] at hother
    rcases hother.1 with hmem | hessential
    · exact hsub hmem
    · exact List.mem_append_right _ hessential
  have hwithheld : name ∉ (v.trial name).allNames := by
    rw [Universe.allNames_trial, Universe.mem_trialNames hv]
    exact fun hname => hname.2 rfl
  exact (failsWithout_eq_true_iff hmono.toIsSound).mpr
    (fails_of_missing hmono Profile.isAllowList_ofRule hallowed hu hfails hwithheld)

theorem discovered_discovered :
    discovered runner (.ofList (discovered runner u)) = discovered runner u := by
  have hstands : discovered runner (.ofList (discovered runner u)) =
      (Universe.ofList (discovered runner u)).names := by
    rw [discovered_eq_names_iff]
    refine ⟨fun name hname => Universe.mem_ofList.mpr (mem_discovered.mpr (Or.inl hname)),
      fun name hname => ?_⟩
    have hsub : (Universe.ofList (discovered runner u)).names ⊆ u.names ++ Syscall.essential := by
      rw [names_ofList_discovered]
      exact fun other hother =>
        List.mem_append.mpr ((mem_discovered.mp hother).symm.imp_left And.left)
    rcases mem_discovered.mp (Universe.mem_ofList.mp hname) with hessential | ⟨hmem, hfails⟩
    · exact Or.inl hessential
    · exact Or.inr (failsWithout_of_subset hmono hsub hmem hname hfails)
  rw [hstands, names_ofList_discovered]

end Monotone

/-- A search of what a search found answers the same, name by name, for a
workload that keeps working when more is allowed.  The two searches may
share their trials among different numbers of workers and in any schedules. -/
theorem discovery_repeated (runner : Runner) (u : Universe) (workers others : Nat)
    (sight sight' : Sight) (hmono : runner.IsMonotone) (hworkers : 0 < workers)
    (hothers : 0 < others) :
    (∃ report, MayReport runner u workers sight report) ∧
    ∀ report, MayReport runner u workers sight report →
      ∃ names, report.answer = .ok (some (.allow names)) ∧
        (∃ second, MayReport runner (.ofList names) others sight' second) ∧
        ∀ second, MayReport runner (.ofList names) others sight' second →
          second.answer = report.answer := by
  refine ⟨exists_mayReport u workers sight hmono.unconstrained, fun report hreport => ?_⟩
  have hanswer := answer_of_isSound hmono.toIsSound hworkers hreport
  refine ⟨discovered runner u, hanswer,
    exists_mayReport _ others sight' hmono.unconstrained, fun second hsecond => ?_⟩
  rw [answer_of_isSound hmono.toIsSound hothers hsecond, discovered_discovered hmono, hanswer]

/-- Either of two calls opens the file; neither is found at first, and what
is found is not enough, yet it is found again. -/
theorem discovery_of_two_ways_repeated :
    (workingIn [["open", "read"], ["openat", "read"]]).IsMonotone ∧ 0 < 2 ∧ 0 < 3 ∧
      ∃ report second, MayReport (workingIn [["open", "read"], ["openat", "read"]])
          (.ofList ["open", "exit", "read", "openat", "write", "read"]) 2 .stale report ∧
        report.answer = .ok (some (.allow
          ["exit", "read", "close", "exit_group", "execve", "futex"])) ∧
        MayReport (workingIn [["open", "read"], ["openat", "read"]])
          (.ofList ["exit", "read", "close", "exit_group", "execve", "futex"]) 3 .current second ∧
        second.answer = report.answer := by
  have hmono := isMonotone_workingIn [["open", "read"], ["openat", "read"]]
  obtain ⟨⟨report, hreport⟩, hrepeated⟩ :=
    discovery_repeated (workingIn [["open", "read"], ["openat", "read"]])
      (.ofList ["open", "exit", "read", "openat", "write", "read"]) 2 3 .stale .current hmono
      (by decide) (by decide)
  obtain ⟨names, hanswer, ⟨second, hsecond⟩, hsame⟩ := hrepeated report hreport
  have hfound : discovered (workingIn [["open", "read"], ["openat", "read"]])
      (.ofList ["open", "exit", "read", "openat", "write", "read"]) =
        ["exit", "read", "close", "exit_group", "execve", "futex"] := by
    decide +kernel
  have hnames : names = ["exit", "read", "close", "exit_group", "execve", "futex"] := by
    rw [answer_of_isSound hmono.toIsSound (by decide) hreport, hfound] at hanswer
    simpa [Rule.allow] using hanswer.symm
  subst hnames
  exact ⟨hmono, by decide, by decide, report, second, hreport, hanswer, hsecond,
    hsame second hsecond⟩

end SyscallPolicy.Elimination
