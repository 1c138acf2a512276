import Mathlib.Data.List.Nodup
import SyscallPolicy.Elimination.Search

/-!
# Places and names

A search works on places in its universe and reports names.  A universe
names each candidate once, so places and names are two views of one list,
and a selection of places, read in order, is a selection of names in the
order of the universe (`Universe.reported_eq`).

`failsWithout` is what a trial says about the workload, and `discovered` is
the list of names that a search without faults is to report.
-/

namespace SyscallPolicy.Elimination

open Workload (RunFailure)

namespace Universe

variable (u : Universe)

theorem map_nameAt : (List.finRange u.names.length).map u.nameAt = u.names := by
  apply List.ext_getElem
  · simp
  · intro i hleft hright
    simp [nameAt]

theorem nameAt_mem (place : u.Place) : u.nameAt place ∈ u.names :=
  List.getElem_mem place.isLt

variable {u}

theorem exists_nameAt {name : String} (hname : name ∈ u.names) :
    ∃ place, u.nameAt place = name := by
  obtain ⟨i, hi, heq⟩ := List.getElem_of_mem hname
  exact ⟨⟨i, hi⟩, heq⟩

theorem names_ofList_of_nodup {names : List String} (hnames : names.Nodup) :
    (ofList names).names = names :=
  eraseDups_of_nodup hnames

@[simp]
theorem mem_probes {place : u.Place} :
    place ∈ u.probes ↔ Syscall.isEssential (u.nameAt place) = false := by
  simp [probes]

theorem nodup_probes : u.probes.Nodup :=
  (List.nodup_finRange _).filter _

theorem count_probes (place : u.Place) :
    u.probes.count place = if Syscall.isEssential (u.nameAt place) then 0 else 1 := by
  cases hessential : Syscall.isEssential (u.nameAt place) with
  | true => exact List.count_eq_zero_of_not_mem (by simp [hessential])
  | false => exact List.count_eq_one_of_mem nodup_probes (by simp [hessential])

theorem length_probes :
    u.probes.length = u.names.countP fun name => !Syscall.isEssential name := by
  conv_rhs => rw [← u.map_nameAt]
  rw [List.countP_map, List.countP_eq_length_filter, probes]
  rfl

theorem mem_missingEssentials {name : String} :
    name ∈ u.missingEssentials ↔ name ∈ Syscall.essential ∧ name ∉ u.names := by
  simp [missingEssentials]

/-- Candidates in order and the essential calls behind them: no call is named
twice. -/
theorem nodup_append_missingEssentials {selected : List String}
    (hselected : selected.Sublist u.names) : (selected ++ u.missingEssentials).Nodup := by
  have hessential : Syscall.essential.Nodup := by decide
  refine (hselected.nodup u.nodup).append (hessential.filter _) fun name hname hmissing => ?_
  exact (mem_missingEssentials.mp hmissing).2 (hselected.subset hname)

theorem nodup_reported (required : List u.Place) : (u.reported required).Nodup := by
  have hnames : (List.map u.nameAt (List.finRange u.names.length)).Sublist u.names := by
    rw [u.map_nameAt]
  exact nodup_append_missingEssentials ((List.filter_sublist.map u.nameAt).trans hnames)

theorem essential_subset_reported (required : List u.Place) :
    Syscall.essential ⊆ u.reported required := by
  intro name hname
  by_cases hmem : name ∈ u.names
  · obtain ⟨place, rfl⟩ := exists_nameAt hmem
    refine List.mem_append_left _ (List.mem_map_of_mem (List.mem_filter.mpr ⟨?_, ?_⟩))
    · exact List.mem_finRange place
    · simp [Syscall.isEssential, hname]
  · exact List.mem_append_right _ (mem_missingEssentials.mpr ⟨hname, hmem⟩)

/-- A trial allows the universe and the essential calls, without the call that
it withholds. -/
theorem mem_trialNames {name withheld : String} (hwithheld : withheld ∈ u.names) :
    name ∈ u.trialNames withheld ↔
      (name ∈ u.names ∨ name ∈ Syscall.essential) ∧ name ≠ withheld := by
  simp only [trialNames, exclude, List.mem_append, List.mem_filter, bne_iff_ne,
    mem_missingEssentials]
  refine ⟨?_, ?_⟩
  · rintro (⟨hname, hne⟩ | ⟨hessential, hmissing⟩)
    · exact ⟨Or.inl hname, hne⟩
    · exact ⟨Or.inr hessential, fun heq => hmissing (heq ▸ hwithheld)⟩
  · rintro ⟨hname, hne⟩
    by_cases hmem : name ∈ u.names
    · exact Or.inl ⟨hmem, hne⟩
    · exact Or.inr ⟨hname.resolve_left hmem, hmem⟩

@[simp]
theorem allNames_trial (withheld : String) :
    (u.trial withheld).allNames = u.trialNames withheld := by
  simp [trial, Profile.allNames, Rule.allow]

/-- A selection of places, read in order, is a selection of names. -/
theorem reported_eq {required : List u.Place} {holds : String → Bool}
    (hrequired : ∀ place ∈ u.probes, place ∈ required ↔ holds (u.nameAt place) = true) :
    u.reported required =
      (u.names.filter fun name => Syscall.isEssential name || holds name) ++
        u.missingEssentials := by
  have hselect : ∀ place : u.Place,
      (Syscall.isEssential (u.nameAt place) || required.contains place) =
        (Syscall.isEssential (u.nameAt place) || holds (u.nameAt place)) := by
    intro place
    cases hessential : Syscall.isEssential (u.nameAt place) with
    | true => rfl
    | false =>
      rw [Bool.false_or, Bool.false_or, Bool.eq_iff_iff, List.contains_iff_mem]
      exact hrequired place (mem_probes.mpr hessential)
  simp only [reported, hselect]
  conv_rhs => rw [← u.map_nameAt]
  rw [List.filter_map]
  rfl

end Universe

/-! ## What a trial says -/

/-- Whether the workload fails, in whatever way, when this call is withheld. -/
def failsWithout (runner : Runner) (u : Universe) (name : String) : Bool :=
  match runner (some (u.trial name)) with
  | .error (.exited _) => true
  | .error .signalled => true
  | .error (.timedOut _) => true
  | .error (.harness _) => false
  | .ok () => false

/-- The candidates that are essential or that the workload fails without, in
the order of the universe, and then the essential calls that it does not name. -/
def discovered (runner : Runner) (u : Universe) : List String :=
  (u.names.filter fun name => Syscall.isEssential name || failsWithout runner u name) ++
    Syscall.essential.filter fun name => name ∉ u.names

variable {runner : Runner} {u : Universe}

theorem discovered_eq : discovered runner u =
    (u.names.filter fun name => Syscall.isEssential name || failsWithout runner u name) ++
      u.missingEssentials := by
  simp [discovered, Universe.missingEssentials]

theorem isRequired_eq_true_iff {name : String} :
    isRequired runner u name = .ok true ↔ failsWithout runner u name = true := by
  unfold isRequired failsWithout
  rcases runner (some (u.trial name)) with failure | ⟨⟩
  · cases failure <;> simp [RunFailure.isHarnessFault]
  · simp

theorem isRequired_eq_error_iff {name : String} {fault : RunFailure} :
    isRequired runner u name = .error fault ↔
      runner (some (u.trial name)) = .error fault ∧ fault.isHarnessFault = true := by
  unfold isRequired
  rcases runner (some (u.trial name)) with failure | ⟨⟩
  · cases hfault : failure.isHarnessFault with
    | true =>
      simp only [hfault, if_true, Except.error.injEq]
      exact ⟨fun h => ⟨h, h ▸ hfault⟩, And.left⟩
    | false =>
      simp only [hfault, Bool.false_eq_true, if_false, reduceCtorEq, false_iff,
        Except.error.injEq]
      rintro ⟨rfl, h⟩
      simp [hfault] at h
  · simp

/-- The report of a search that noted exactly the candidates whose trials failed. -/
theorem answerOf_ok {required : List u.Place}
    (hrequired : ∀ place ∈ u.probes, place ∈ required ↔ probe runner u place = .ok true) :
    answerOf u (.ok required) = .ok (some (.allow (discovered runner u))) := by
  have hreported : u.reported required = discovered runner u := by
    rw [discovered_eq, Universe.reported_eq fun place hplace =>
      (hrequired place hplace).trans isRequired_eq_true_iff]
  rw [answerOf, hreported]

/-! ## The trials in order -/

/-- Without a fault all candidates are probed, and those are found that are required. -/
theorem probeAll_of_judged {α : Type} {probe : α → Except RunFailure Bool} {candidates : List α}
    (hjudged : ∀ c ∈ candidates, ∀ fault, probe c ≠ .error fault) :
    ∃ found, probeAll probe candidates = (candidates, .ok found) ∧
      ∀ c, c ∈ found ↔ c ∈ candidates ∧ probe c = .ok true := by
  induction candidates with
  | nil => exact ⟨[], rfl, by simp⟩
  | cons c rest ih =>
    obtain ⟨found, hrest, hfound⟩ := ih fun d hd => hjudged d (List.mem_cons_of_mem c hd)
    cases hprobe : probe c with
    | error fault => exact absurd hprobe (hjudged c List.mem_cons_self fault)
    | ok required =>
      cases required with
      | false =>
        refine ⟨found, by simp [probeAll, hprobe, hrest], fun d => ?_⟩
        rw [hfound d, List.mem_cons]
        refine ⟨fun h => ⟨Or.inr h.1, h.2⟩, ?_⟩
        rintro ⟨rfl | hd, hok⟩
        · simp [hprobe] at hok
        · exact ⟨hd, hok⟩
      | true =>
        refine ⟨c :: found, by simp [probeAll, hprobe, hrest], fun d => ?_⟩
        rw [List.mem_cons, List.mem_cons, hfound d]
        refine ⟨?_, ?_⟩
        · rintro (rfl | hd)
          · exact ⟨Or.inl rfl, hprobe⟩
          · exact ⟨Or.inr hd.1, hd.2⟩
        · rintro ⟨rfl | hd, hok⟩
          · exact Or.inl rfl
          · exact Or.inr ⟨hd, hok⟩

theorem discover_answer (s : Search) (hrun : s.runner none = .ok ())
    (hjudged : ∀ place ∈ s.candidates.probes, ∀ fault,
      probe s.runner s.candidates place ≠ .error fault) :
    s.discover.answer = .ok (some (.allow (discovered s.runner s.candidates))) := by
  obtain ⟨found, hprobed, hfound⟩ := probeAll_of_judged hjudged
  simp only [Search.discover, hrun, hprobed]
  exact answerOf_ok fun place hplace => by simp [hfound place, Universe.mem_probes.mp hplace]

end SyscallPolicy.Elimination
