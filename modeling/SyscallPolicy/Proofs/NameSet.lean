import Mathlib.Data.List.Destutter
import Mathlib.Data.List.Sort
import Mathlib.Data.String.Basic
import SyscallPolicy.NameSet
import SyscallPolicy.Proofs.Text.Utf8

/-!
# Canonical lists of names

A canonical list is known by its members (`isCanonical_ofList`,
`ofList_eq_ofList_iff`), so the set of the names in a list is what sorting
the list and dropping repeated neighbours leaves of it
(`ofList_eq_destutter_mergeSort`).  Its order is also that of the bytes of
the names (`isCanonical_iff_pairwise_toUTF8`).
-/

namespace SyscallPolicy

theorem IsCanonical.nodup {names : List String} (hnames : IsCanonical names) : names.Nodup :=
  hnames.imp fun hlt => ne_of_lt hlt

theorem isCanonical_iff_pairwise_toUTF8 {names : List String} : IsCanonical names ↔
    names.Pairwise fun name other => name.toUTF8.toList < other.toUTF8.toList := by
  simp only [IsCanonical, toUTF8_lt_toUTF8_iff]

namespace NameSet

variable {name : String} {names others : List String}

theorem isCanonical_insert (hnames : IsCanonical names) : IsCanonical (insert name names) := by
  induction names with
  | nil => exact List.pairwise_singleton _ _
  | cons first rest ih =>
    obtain ⟨hfirst, hrest⟩ := List.pairwise_cons.mp hnames
    rw [insert]
    split
    case isTrue hlt =>
      refine List.pairwise_cons.mpr ⟨fun other hother => ?_, hnames⟩
      rcases List.mem_cons.mp hother with rfl | hother
      · exact hlt
      · exact hlt.trans (hfirst other hother)
    case isFalse hge =>
      split
      case isTrue => exact hnames
      case isFalse hne =>
        refine List.pairwise_cons.mpr ⟨fun other hother => ?_, ih hrest⟩
        rcases mem_insert.mp hother with rfl | hother
        · exact lt_of_le_of_ne (not_lt.mp hge) (Ne.symm hne)
        · exact hfirst other hother

theorem isCanonical_ofList (names : List String) : IsCanonical (ofList names) := by
  induction names with
  | nil => exact List.Pairwise.nil
  | cons first rest ih => exact isCanonical_insert ih

theorem ofList_eq_ofList_iff :
    ofList names = ofList others ↔ ∀ name, name ∈ names ↔ name ∈ others := by
  refine ⟨fun heq name => ?_, fun hmem => ?_⟩
  · rw [← mem_ofList, heq, mem_ofList]
  · refine (isCanonical_ofList names).eq_of_mem_iff (isCanonical_ofList others) fun name => ?_
    rw [mem_ofList, mem_ofList, hmem]

theorem mem_destutter' {first : String} :
    name ∈ names.destutter' (· ≠ ·) first ↔ name = first ∨ name ∈ names := by
  induction names generalizing first with
  | nil => simp
  | cons other rest ih =>
    by_cases hne : first ≠ other
    · rw [List.destutter'_cons_pos _ hne, List.mem_cons, ih, List.mem_cons]
    · obtain rfl : first = other := not_not.mp hne
      rw [List.destutter'_cons_neg _ hne, ih, List.mem_cons, or_self_left]

theorem mem_destutter : name ∈ names.destutter (· ≠ ·) ↔ name ∈ names := by
  cases names with
  | nil => rfl
  | cons first rest => rw [List.destutter_cons', mem_destutter', List.mem_cons]

theorem isCanonical_destutter (hsorted : names.Pairwise (· ≤ ·)) :
    IsCanonical (names.destutter (· ≠ ·)) := by
  have hle := (hsorted.sublist (List.destutter_sublist (· ≠ ·) names)).isChain
  have hne := List.isChain_destutter (· ≠ ·) names
  rw [List.isChain_iff_getElem] at hle hne
  rw [IsCanonical, ← List.isChain_iff_pairwise, List.isChain_iff_getElem]
  exact fun i hi => lt_of_le_of_ne (hle i hi) (hne i hi)

/-- The set of the names in a list is what sorting the list and dropping
repeated neighbours leaves of it. -/
theorem ofList_eq_destutter_mergeSort (names : List String) :
    ofList names = (names.mergeSort (· ≤ ·)).destutter (· ≠ ·) := by
  have hsorted : (names.mergeSort (· ≤ ·)).Pairwise (· ≤ ·) := List.pairwise_mergeSort' _ names
  refine (isCanonical_ofList names).eq_of_mem_iff (isCanonical_destutter hsorted) fun name => ?_
  rw [mem_ofList, mem_destutter, List.mem_mergeSort]

end NameSet

end SyscallPolicy
