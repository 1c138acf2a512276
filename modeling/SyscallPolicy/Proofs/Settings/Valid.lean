import SyscallPolicy.Elimination.Search
import SyscallPolicy.Proofs.FirstSeen
import SyscallPolicy.Settings.Document

/-!
# Valid settings

A text gives settings if it can be read and they are valid (`ofText_eq_ok_iff`), and valid
settings are those that break none of the three rules (`validate_eq_ok_iff`).  A search with
valid settings has candidates to probe and a worker to probe them (`search_of_valid`).
-/

namespace SyscallPolicy

namespace Settings

variable {settings : Settings}

theorem ofText_eq_ok_iff {text : String} : ofText text = .ok settings ↔
    (Toml.read? text.toList).bind ofToml? = some settings ∧ settings.validate = .ok () := by
  unfold ofText
  cases hread : (Toml.read? text.toList).bind ofToml? with
  | none => simp
  | some found =>
    simp only [Option.some.injEq]
    constructor
    · intro hfound
      split at hfound
      case h_1 => cases hfound
      case h_2 hvalid =>
        obtain rfl := Except.ok.inj hfound
        exact ⟨rfl, hvalid⟩
    · rintro ⟨rfl, hvalid⟩
      rw [hvalid]

theorem validate_eq_ok_iff : settings.validate = .ok () ↔
    settings.search.parallel ≠ some 0 ∧ settings.search.candidates ≠ some [] ∧
      settings.runner.timeoutSecs ≠ 0 := by
  unfold validate
  split_ifs with hparallel hcandidates htimeout
  · simp [hparallel]
  · simp [hcandidates]
  · simp [htimeout]
  · simp [hparallel, hcandidates, htimeout]

end Settings

namespace Elimination

variable {runner : Runner} {processors : ℕ}

theorem Search.names_withSettings (s : Search) (settings : SearchSettings) :
    (s.withSettings settings).candidates.names =
      (settings.candidates.map List.eraseDups).getD s.candidates.names := by
  unfold Search.withSettings
  cases settings.candidates <;> cases settings.parallel <;> rfl

theorem Search.parallel_withSettings (s : Search) (settings : SearchSettings) :
    (s.withSettings settings).parallel =
      (settings.parallel.map fun bound => max bound 1).getD s.parallel := by
  unfold Search.withSettings
  cases settings.candidates <;> cases settings.parallel <;> rfl

/-- A search with valid settings probes the names that they list, or the common ones, each
once and in the order in which they first come, and there are some.  It runs as many trials
at one time as they say, or as there are processors, and at least one. -/
theorem search_of_valid {settings : Settings} (hvalid : settings.validate = .ok ())
    (hprocessors : 1 ≤ processors) {s : Search}
    (hs : s = (Search.new runner processors).withSettings settings.search) :
    IsFirstSeen s.candidates.names (settings.search.candidates.getD Syscall.commonCandidates) ∧
      s.candidates.names ≠ [] ∧
      s.parallel = settings.search.parallel.getD processors ∧ 1 ≤ s.parallel := by
  obtain ⟨hparallel, hcandidates, -⟩ := Settings.validate_eq_ok_iff.mp hvalid
  have hnames : s.candidates.names =
      (settings.search.candidates.getD Syscall.commonCandidates).eraseDups := by
    rw [hs, Search.names_withSettings]
    cases settings.search.candidates with
    | none => simp only [Search.new, Universe.ofList, Option.map_none, Option.getD_none]
    | some names => rfl
  have hseen := isFirstSeen_eraseDups (settings.search.candidates.getD Syscall.commonCandidates)
  rw [← hnames] at hseen
  refine ⟨hseen, ?_, ?_⟩
  · obtain ⟨name, hname⟩ : ∃ name, name ∈
        settings.search.candidates.getD Syscall.commonCandidates := by
      refine List.exists_mem_of_ne_nil _ ?_
      cases hlisted : settings.search.candidates with
      | none => exact List.cons_ne_nil _ _
      | some names => exact fun hempty => hcandidates (by rw [hlisted]; exact congrArg some hempty)
    exact List.ne_nil_of_mem ((hseen.mem_iff name).mpr hname)
  · rw [hs, Search.parallel_withSettings]
    cases hbound : settings.search.parallel with
    | none => exact ⟨rfl, hprocessors⟩
    | some bound =>
      have hpos : bound ≠ 0 := fun hzero => hparallel (by rw [hbound, hzero])
      simp only [Option.map_some, Option.getD_some]
      omega

end Elimination

end SyscallPolicy
