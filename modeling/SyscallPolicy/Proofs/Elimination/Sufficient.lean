import SyscallPolicy.Proofs.Elimination.Schedule
import SyscallPolicy.Synthesis

/-!
# What a discovery says about all sets of calls

A search makes one trial for each candidate.  For a workload that keeps
working when more is allowed, these few trials decide a question about all
sets of calls: the discovered names are the essential calls and those that
every sufficient set has.

* `fails_of_missing`: no set does without a discovered call.
* `isSufficient_trialNames`: a call that was not discovered can be left out
  of a sufficient set.
* `mem_discovered_iff` puts the two together, and
  `succeeds_discovered_iff` tells when the discovered names are themselves
  enough: there is a least sufficient set.
-/

namespace SyscallPolicy

/-! ## Allow lists -/

theorem Profile.isAllowList_ofRule {architectures : List Architecture} {names : List String} :
    (Profile.mk .errno architectures [.allow names]).IsAllowList :=
  ⟨rfl, fun rule hrule => by
    rw [List.mem_singleton.mp hrule]
    rfl⟩

theorem Profile.allNames_ofRule {architectures : List Architecture} {names : List String} :
    (Profile.mk .errno architectures [.allow names]).allNames = names := by
  simp [Profile.allNames, Rule.allow]

/-- The profile of a discovery that names something is an allow list of
exactly its names. -/
theorem synthesize_allow (settings : SynthesisSettings) {names : List String}
    (hnames : names ≠ []) :
    synthesize settings (some (.allow names)) =
      some ⟨.errno, Architecture.ofTargets settings.targets, [.allow (NameSet.ofList names)]⟩ := by
  have hrules : synthesizedRules (some (.allow names)) = [.allow (NameSet.ofList names)] := by
    simp [synthesizedRules, Rule.allow, Rule.canonical, hnames]
  rw [synthesize, hrules]

namespace Elimination

open Workload (RunFailure)

variable {runner : Runner} {u : Universe} {names : List String} {name : String}

/-! ## Trials and sufficient sets -/

theorem mem_discovered :
    name ∈ discovered runner u ↔
      name ∈ Syscall.essential ∨ name ∈ u.names ∧ failsWithout runner u name = true := by
  simp only [discovered, List.mem_append, List.mem_filter, Bool.or_eq_true,
    Syscall.isEssential, List.contains_iff_mem, decide_eq_true_eq]
  tauto

theorem discovered_ne_nil : discovered runner u ≠ [] := by
  have hclose : "close" ∈ discovered runner u := mem_discovered.mpr (Or.inl (by decide))
  exact List.ne_nil_of_mem hclose

theorem failsWithout_eq_true_iff (hsound : runner.IsSound) :
    failsWithout runner u name = true ↔ runner (some (u.trial name)) ≠ .ok () := by
  unfold failsWithout
  rcases hrun : runner (some (u.trial name)) with failure | ⟨⟩
  · have hjudged := hsound.judged _ failure hrun
    cases failure with
    | harness reason => simp [Workload.RunFailure.isHarnessFault] at hjudged
    | _ => simp
  · simp

section Monotone

variable (hmono : runner.IsMonotone)
include hmono

/-- A workload looks at an allow list only for its names. -/
theorem succeeds_congr {p q : Profile} (hp : p.IsAllowList) (hq : q.IsAllowList)
    (hnames : ∀ name, name ∈ p.allNames ↔ name ∈ q.allNames) :
    runner (some p) = .ok () ↔ runner (some q) = .ok () :=
  ⟨hmono.mono p q hp hq fun name => (hnames name).mp,
    hmono.mono q p hq hp fun name => (hnames name).mpr⟩

/-- No allow list of candidates and essential calls does without a candidate
whose trial failed. -/
theorem fails_of_missing {p : Profile} (hp : p.IsAllowList)
    (hwithin : p.allNames ⊆ u.names ++ Syscall.essential) (hname : name ∈ u.names)
    (hfails : failsWithout runner u name = true) (hmissing : name ∉ p.allNames) :
    runner (some p) ≠ .ok () := by
  intro hsucceeds
  refine (failsWithout_eq_true_iff hmono.toIsSound).mp hfails ?_
  refine hmono.mono p _ hp Profile.isAllowList_ofRule ?_ hsucceeds
  intro other hother
  rw [Universe.allNames_trial, Universe.mem_trialNames hname]
  refine ⟨List.mem_append.mp (hwithin hother), ?_⟩
  rintro rfl
  exact hmissing hother

/-- A candidate whose trial succeeded can be left out. -/
theorem isSufficient_trialNames (hname : name ∈ u.names) (hprobed : name ∉ Syscall.essential)
    (hfails : failsWithout runner u name = false) :
    IsSufficient runner u (u.trialNames name) where
  essential other hother := by
    rw [Universe.mem_trialNames hname]
    refine ⟨Or.inr hother, ?_⟩
    rintro rfl
    exact hprobed hother
  within other hother := List.mem_append.mpr ((Universe.mem_trialNames hname).mp hother).1
  succeeds := by
    by_contra hne
    have htrial := (failsWithout_eq_true_iff hmono.toIsSound).mpr hne
    simp [hfails] at htrial

/-- The discovered names are what all sufficient sets have in common. -/
theorem mem_discovered_iff :
    name ∈ discovered runner u ↔ name ∈ Syscall.essential ∨
      name ∈ u.names ∧ ∀ other, IsSufficient runner u other → name ∈ other := by
  rw [mem_discovered]
  by_cases hessential : name ∈ Syscall.essential
  · simp [hessential]
  refine or_congr_right (and_congr_right fun hname => ⟨?_, ?_⟩)
  -- A sufficient set without the name would make its trial succeed; the other
  -- way round, a trial that succeeds is itself a sufficient set without it.
  · intro hfails other hother
    by_contra hmissing
    refine fails_of_missing hmono Profile.isAllowList_ofRule ?_ hname hfails ?_ hother.succeeds
    · rw [Profile.allNames_ofRule]
      exact hother.within
    · rw [Profile.allNames_ofRule]
      exact hmissing
  · intro hall
    by_contra hfails
    have hother := isSufficient_trialNames hmono hname hessential (by simpa using hfails)
    exact ((Universe.mem_trialNames hname).mp (hall _ hother)).2 rfl

theorem discovered_subset (hsufficient : IsSufficient runner u names) :
    discovered runner u ⊆ names := by
  intro name hname
  rcases (mem_discovered_iff hmono).mp hname with hessential | ⟨-, hall⟩
  · exact hsufficient.essential hessential
  · exact hall names hsufficient

/-- The discovered names are enough exactly when there is a least sufficient
set, and then they are that set. -/
theorem succeeds_discovered_iff :
    runner (some (allowing (discovered runner u))) = .ok () ↔
      ∃ other, IsLeastSufficient runner u other := by
  refine ⟨fun hsucceeds => ?_, ?_⟩
  · refine ⟨discovered runner u, ⟨?_, ?_, hsucceeds⟩, fun other => discovered_subset hmono⟩
    · exact fun name hname => mem_discovered.mpr (Or.inl hname)
    · intro name hname
      rw [List.mem_append]
      exact (mem_discovered.mp hname).symm.imp_left And.left
  · rintro ⟨other, hother⟩
    have hsub : other ⊆ discovered runner u := by
      intro name hname
      rw [mem_discovered_iff hmono]
      rcases List.mem_append.mp (hother.within hname) with hmem | hessential
      · exact Or.inr ⟨hmem, fun third hthird => hother.least third hthird hname⟩
      · exact Or.inl hessential
    refine hmono.mono (allowing other) _ Profile.isAllowList_ofRule Profile.isAllowList_ofRule
      ?_ hother.succeeds
    rw [allowing, allowing, Profile.allNames_ofRule, Profile.allNames_ofRule]
    exact hsub

/-- The same holds of the profile that is made from the discovered names. -/
theorem succeeds_synthesize_iff (settings : SynthesisSettings) :
    ∃ p, synthesize settings (some (.allow (discovered runner u))) = some p ∧
      (runner (some p) = .ok () ↔ ∃ other, IsLeastSufficient runner u other) := by
  refine ⟨_, synthesize_allow settings discovered_ne_nil, ?_⟩
  rw [← succeeds_discovered_iff hmono]
  refine succeeds_congr hmono Profile.isAllowList_ofRule Profile.isAllowList_ofRule ?_
  intro name
  rw [allowing, Profile.allNames_ofRule, Profile.allNames_ofRule, NameSet.mem_ofList]

end Monotone

/-! ## Workloads that need certain calls -/

section Conjunctive

variable {needed : List String} (hsound : runner.IsSound)
  (hneeds : ∀ p : Profile, p.IsAllowList → (runner (some p) = .ok () ↔ needed ⊆ p.allNames))
include hsound hneeds

theorem failsWithout_iff_of_needed (hname : name ∈ u.names) :
    failsWithout runner u name = true ↔
      name ∈ needed ∨ ¬needed ⊆ u.names ++ Syscall.essential := by
  rw [failsWithout_eq_true_iff hsound, ne_eq, hneeds (u.trial name) Profile.isAllowList_ofRule,
    Universe.allNames_trial]
  refine ⟨fun hfails => ?_, ?_⟩
  · by_contra hnone
    push Not at hnone
    refine hfails fun other hother => (Universe.mem_trialNames hname).mpr
      ⟨List.mem_append.mp (hnone.2 hother), ?_⟩
    rintro rfl
    exact hnone.1 hother
  · rintro (hmem | houtside) hsub
    · exact ((Universe.mem_trialNames hname).mp (hsub hmem)).2 rfl
    · exact houtside fun other hother =>
        List.mem_append.mpr ((Universe.mem_trialNames hname).mp (hsub hother)).1

/-- A workload that needs certain calls, all of which may be allowed: exactly
these are discovered, and the essential ones. -/
theorem mem_discovered_of_needed (hwithin : needed ⊆ u.names ++ Syscall.essential) :
    name ∈ discovered runner u ↔ name ∈ needed ∨ name ∈ Syscall.essential := by
  rw [mem_discovered]
  refine ⟨?_, ?_⟩
  · rintro (hessential | ⟨hname, hfails⟩)
    · exact Or.inr hessential
    · exact Or.inl (((failsWithout_iff_of_needed hsound hneeds hname).mp hfails).resolve_right
        (not_not.mpr hwithin))
  · rintro (hmem | hessential)
    · rcases List.mem_append.mp (hwithin hmem) with hname | hessential
      · exact Or.inr ⟨hname, (failsWithout_iff_of_needed hsound hneeds hname).mpr (Or.inl hmem)⟩
      · exact Or.inl hessential
    · exact Or.inl hessential

/-- If one of the needed calls is never allowed, all trials fail. -/
theorem mem_discovered_of_outside (houtside : ¬needed ⊆ u.names ++ Syscall.essential) :
    name ∈ discovered runner u ↔ name ∈ u.names ∨ name ∈ Syscall.essential := by
  rw [mem_discovered, or_comm]
  refine or_congr_left (and_iff_left_of_imp fun hname => ?_)
  exact (failsWithout_iff_of_needed hsound hneeds hname).mpr (Or.inr houtside)

end Conjunctive

/-! ## What any discovery finds -/

/-- The trials of single calls settle what holds of all sets of calls: the
answer of every schedule names what all sufficient sets have in common, and
everything in the universe if there is no such set.  Whoever refuses one of
these names makes the workload fail, and allowing just these is enough
exactly when some sufficient set is the least one. -/
theorem discovery_finds_common_calls (runner : Runner) (u : Universe) (workers : Nat)
    (sight : Sight) (hmono : runner.IsMonotone) (hworkers : 0 < workers) :
    ∀ report, MayReport runner u workers sight report →
      ∃ names, report.answer = .ok (some (.allow names)) ∧
        (∀ name, name ∈ names ↔ name ∈ Syscall.essential ∨
          name ∈ u.names ∧ ∀ other, IsSufficient runner u other → name ∈ other) ∧
        ((∀ other, ¬IsSufficient runner u other) →
          ∀ name, name ∈ names ↔ name ∈ Syscall.essential ∨ name ∈ u.names) ∧
        (∀ other, IsSufficient runner u other → names ⊆ other) ∧
        (∀ p : Profile, p.IsAllowList → p.allNames ⊆ u.names ++ Syscall.essential →
          ∀ name ∈ names, name ∉ Syscall.essential → name ∉ p.allNames →
            runner (some p) ≠ .ok ()) ∧
        (runner (some (allowing names)) = .ok () ↔ ∃ other, IsLeastSufficient runner u other) ∧
        (∀ settings, ∃ p, report.answer.map (synthesize settings) = .ok (some p) ∧
          (runner (some p) = .ok () ↔ ∃ other, IsLeastSufficient runner u other)) ∧
        ∀ needed : List String,
          (∀ p : Profile, p.IsAllowList → (runner (some p) = .ok () ↔ needed ⊆ p.allNames)) →
            (needed ⊆ u.names ++ Syscall.essential →
              ∀ name, name ∈ names ↔ name ∈ needed ∨ name ∈ Syscall.essential) ∧
            (¬needed ⊆ u.names ++ Syscall.essential →
              ∀ name, name ∈ names ↔ name ∈ u.names ∨ name ∈ Syscall.essential) := by
  intro report hreport
  have hanswer := answer_of_isSound hmono.toIsSound hworkers hreport
  refine ⟨discovered runner u, hanswer, fun name => mem_discovered_iff hmono, ?none, ?subset,
    ?missing, succeeds_discovered_iff hmono, ?synthesized, ?needed⟩
  case none =>
    intro hnone name
    rw [mem_discovered_iff hmono]
    exact or_congr_right (and_iff_left fun other hother => absurd hother (hnone other))
  case subset => exact fun other hother => discovered_subset hmono hother
  case missing =>
    intro p hp hwithin name hname hprobed hmissing
    obtain ⟨hmem, hfails⟩ := (mem_discovered.mp hname).resolve_left hprobed
    exact fails_of_missing hmono hp hwithin hmem hfails hmissing
  case synthesized =>
    intro settings
    obtain ⟨p, hp, hiff⟩ := succeeds_synthesize_iff (u := u) hmono settings
    refine ⟨p, ?_, hiff⟩
    rw [hanswer, Except.map, hp]
  case needed =>
    intro needed hneeds
    exact ⟨fun hwithin name => mem_discovered_of_needed hmono.toIsSound hneeds hwithin,
      fun houtside name => mem_discovered_of_outside hmono.toIsSound hneeds houtside⟩

/-- A workload that reads a file it may open in two ways: neither way is
discovered, and what is discovered is not enough. -/
theorem discovery_of_two_ways :
    (workingIn [["open", "read"], ["openat", "read"]]).IsMonotone ∧ 0 < 2 ∧
      ∀ report, MayReport (workingIn [["open", "read"], ["openat", "read"]])
          (.ofList ["open", "read", "openat", "write", "read"]) 2 .current report →
        ∃ names, report.answer = .ok (some (.allow names)) ∧ "read" ∈ names ∧
          "open" ∉ names ∧ "openat" ∉ names ∧
          workingIn [["open", "read"], ["openat", "read"]] (some (allowing names)) ≠ .ok () := by
  have hmono := isMonotone_workingIn [["open", "read"], ["openat", "read"]]
  refine ⟨hmono, by decide, fun report hreport => ?_⟩
  obtain ⟨names, hanswer, hnames, -, hsubset, -⟩ :=
    discovery_finds_common_calls (workingIn [["open", "read"], ["openat", "read"]])
      (.ofList ["open", "read", "openat", "write", "read"]) 2 .current hmono (by decide) report
      hreport
  have hread : "read" ∈ names := by
    refine (hnames "read").mpr (Or.inr ⟨by decide +kernel, fun other hother => ?_⟩)
    obtain ⟨way, hway, hallowed⟩ := workingIn_eq_ok_iff.mp hother.succeeds
    rw [allowing, Profile.allNames_ofRule] at hallowed
    rcases List.mem_pair.mp hway with rfl | rfl
    · exact hallowed (by simp)
    · exact hallowed (by simp)
  have hopen : names ⊆ "open" :: "read" :: Syscall.essential :=
    hsubset _ ⟨by decide, by decide +kernel, by decide +kernel⟩
  have hopenat : names ⊆ "openat" :: "read" :: Syscall.essential :=
    hsubset _ ⟨by decide, by decide +kernel, by decide +kernel⟩
  have hnoOpen : "open" ∉ names := fun hmem => absurd (hopenat hmem) (by decide)
  have hnoOpenat : "openat" ∉ names := fun hmem => absurd (hopen hmem) (by decide)
  refine ⟨names, hanswer, hread, hnoOpen, hnoOpenat, fun hsucceeds => ?_⟩
  obtain ⟨way, hway, hallowed⟩ := workingIn_eq_ok_iff.mp hsucceeds
  rw [allowing, Profile.allNames_ofRule] at hallowed
  rcases List.mem_pair.mp hway with rfl | rfl
  · exact hnoOpen (hallowed List.mem_cons_self)
  · exact hnoOpenat (hallowed List.mem_cons_self)

end Elimination

end SyscallPolicy
