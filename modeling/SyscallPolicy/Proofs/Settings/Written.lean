import SyscallPolicy.Proofs.Settings.Document
import SyscallPolicy.Proofs.Toml.Written

/-!
# A document for every assignment

Whatever values are assigned to settings, the writer makes a document that sets exactly them,
if only the numbers are of 63 bits (`exists_isDocument`).  It has a section for each group, and
in it the keys of the settings in the group that have a value.
-/

namespace SyscallPolicy

open Toml (Pair Section namesBelow pairsOf)

namespace Assignment

variable {a : Assignment}

/-- Whether the numbers are of 63 bits. -/
def InRange (a : Assignment) : Prop :=
  (∀ bound, a.parallel = some bound → bound < 2 ^ 63) ∧
    ∀ secs, a.timeoutSecs = some secs → secs < 2 ^ 63

/-- The entries of the settings in a group that are set. -/
def entries (a : Assignment) (name : String) : List (String × Toml) :=
  (SettingsKey.all.filter fun key => key.group = name).filterMap fun key =>
    (a.value? key).map fun value => (key.name, value)

/-- The sections of all groups. -/
def drafts (a : Assignment) : List Toml.SectionDraft :=
  SettingsKey.groups.map fun name => (name, a.entries name)

theorem mem_entries {key : SettingsKey} {value : Toml} :
    (key.name, value) ∈ a.entries key.group ↔ a.value? key = some value := by
  rw [entries, List.mem_filterMap]
  constructor
  · rintro ⟨other, -, hvalue⟩
    obtain ⟨found, hfound, heq⟩ := Option.map_eq_some_iff.mp hvalue
    obtain ⟨hname, rfl⟩ := Prod.mk.inj heq
    rwa [← SettingsKey.name_injective hname]
  · intro hvalue
    exact ⟨key, List.mem_filter.mpr ⟨key.mem_all, by simp⟩, by rw [hvalue]; rfl⟩

theorem nodup_entries (a : Assignment) (name : String) :
    ((a.entries name).map Prod.fst).Nodup := by
  have hnodup : (SettingsKey.all.filter fun key => key.group = name).Nodup :=
    List.Nodup.filter _ (by decide)
  rw [entries, List.map_filterMap]
  refine hnodup.filterMap fun key other found hkey hother => ?_
  obtain ⟨entry, hentry, rfl⟩ := Option.map_eq_some_iff.mp hkey
  obtain ⟨entry', hentry', heq⟩ := Option.map_eq_some_iff.mp hother
  obtain ⟨value, -, rfl⟩ := Option.map_eq_some_iff.mp hentry
  obtain ⟨value', -, rfl⟩ := Option.map_eq_some_iff.mp hentry'
  exact SettingsKey.name_injective heq.symm

theorem isWritable_of_inRange {depth : ℕ} (hrange : a.InRange) {key : SettingsKey} {value : Toml}
    (hvalue : a.value? key = some value) : Toml.IsWritable (depth + 1) value := by
  have hstrings : ∀ names : List String, Toml.IsWritable (depth + 1) (.ofStrings names) := by
    intro names
    refine .array fun item hitem => ?_
    obtain ⟨name, -, rfl⟩ := List.mem_map.mp hitem
    exact .string name
  have hinteger : ∀ number : ℕ, number < 2 ^ 63 →
      Toml.IsWritable (depth + 1) (.integer number) := by
    intro number hlt
    refine .integer ?_ ?_ <;> simp only [Toml.Scalar.integerBound] <;> omega
  cases key with
  | logPath =>
    obtain ⟨path, -, rfl⟩ := Option.map_eq_some_iff.mp hvalue
    exact .string path
  | targets =>
    obtain ⟨names, -, rfl⟩ := Option.map_eq_some_iff.mp hvalue
    exact hstrings names
  | nilForNoCalls =>
    obtain ⟨flag, -, rfl⟩ := Option.map_eq_some_iff.mp hvalue
    exact .boolean flag
  | parallel =>
    obtain ⟨bound, hbound, rfl⟩ := Option.map_eq_some_iff.mp hvalue
    exact hinteger bound (hrange.1 bound hbound)
  | candidates =>
    obtain ⟨names, -, rfl⟩ := Option.map_eq_some_iff.mp hvalue
    exact hstrings names
  | timeoutSecs =>
    obtain ⟨secs, hsecs, rfl⟩ := Option.map_eq_some_iff.mp hvalue
    exact hinteger secs (hrange.2 secs hsecs)
  | unconstrained =>
    obtain ⟨word, -, rfl⟩ := Option.map_eq_some_iff.mp hvalue
    exact .string word

theorem filter_isNamed_drafts {name : String} (hname : name ∈ SettingsKey.groups) :
    ((a.drafts.map Toml.sectionOf).filter fun part => part.IsNamed name) =
      [Toml.sectionOf (name, a.entries name)] := by
  have hdraft : ∀ draft : Toml.SectionDraft,
      (Toml.sectionOf draft).IsNamed name ↔ draft.1 = name := by
    simp [Toml.sectionOf, Section.IsNamed]
  have hgroup : ∀ name ∈ SettingsKey.groups,
      (SettingsKey.groups.filter fun group => group = name) = [name] := by decide
  rw [drafts, List.map_map, List.filter_map]
  have hfilter : (SettingsKey.groups.filter
      ((fun part : Section => decide (part.IsNamed name)) ∘
        Toml.sectionOf ∘ fun group => (group, a.entries group))) = [name] := by
    rw [← hgroup name hname]
    refine List.filter_congr fun group _ => ?_
    simp [hdraft]
  rw [hfilter]
  rfl

theorem pairsOf_drafts {name : String} (hname : name ∈ SettingsKey.groups) :
    pairsOf name (a.drafts.map Toml.sectionOf) = (a.entries name).map Pair.ofEntry := by
  rw [pairsOf, filter_isNamed_drafts hname, List.flatMap_singleton]
  rfl

theorem path_eq_nil_of_mem_drafts {part : Section} (hpart : part ∈ a.drafts.map Toml.sectionOf) :
    part.isArray = false ∧ part.path = [] ∧ part.key ∈ SettingsKey.groups := by
  obtain ⟨draft, hdraft, rfl⟩ := List.mem_map.mp hpart
  obtain ⟨name, hname, rfl⟩ := List.mem_map.mp hdraft
  exact ⟨rfl, rfl, hname⟩

theorem namesBelow_drafts (a : Assignment) (name : String) :
    namesBelow name (a.drafts.map Toml.sectionOf) = [] := by
  rw [namesBelow, List.map_eq_nil_iff, List.filter_eq_nil_iff]
  intro part hpart
  simp [(path_eq_nil_of_mem_drafts hpart).2.1]

theorem isTable_drafts {name : String} (hname : name ∈ SettingsKey.groups) :
    Toml.IsTable name (a.drafts.map Toml.sectionOf) where
  once := by
    rw [filter_isNamed_drafts hname]
    exact le_rfl
  single part hpart _ := (path_eq_nil_of_mem_drafts hpart).1
  apart := by
    rw [pairsOf_drafts hname]
    exact Toml.areApart_ofEntry (a.nodup_entries name)
  below_ne := by
    rw [namesBelow_drafts]
    exact fun _ _ => List.not_mem_nil

/-- The written document sets exactly these values. -/
theorem isSetBy_drafts (a : Assignment) : a.IsSetBy [] (a.drafts.map Toml.sectionOf) where
  sections :=
    { top_ne := by simp
      tables := fun _ hname => isTable_drafts hname
      others := by
        rw [List.filter_eq_nil_iff.mpr]
        · rfl
        · intro part hpart hall
          have hpath := path_eq_nil_of_mem_drafts hpart
          exact of_decide_eq_true hall part.key hpath.2.2 ⟨hpath.2.1, rfl⟩ }
  plain := by
    intro key pair hpair _
    rw [pairsOf_drafts key.group_mem_groups] at hpair
    obtain ⟨entry, -, rfl⟩ := List.mem_map.mp hpair
    rfl
  name_notMem := by
    intro key
    rw [namesBelow_drafts]
    exact List.not_mem_nil
  mem_iff := by
    intro key value
    have hinjective : Function.Injective Pair.ofEntry := by
      rintro ⟨key, value⟩ ⟨key', value'⟩ heq
      cases heq
      rfl
    rw [pairsOf_drafts key.group_mem_groups, ← mem_entries]
    exact List.mem_map_of_injective (a := (key.name, value)) hinjective

/-- Every assignment with numbers of 63 bits has a document. -/
theorem exists_isDocument (hrange : a.InRange) {width depth : ℕ} (hwidth : 1 ≤ width)
    (hdepth : 1 ≤ depth) : ∃ text, a.IsDocument width depth text := by
  obtain ⟨depth, rfl⟩ : ∃ less, depth = less + 1 := ⟨depth - 1, by omega⟩
  have hwritable : ∀ draft ∈ a.drafts, ∀ entry ∈ draft.2, Toml.IsWritable (depth + 1) entry.2 := by
    intro draft hdraft entry hentry
    obtain ⟨name, -, rfl⟩ := List.mem_map.mp hdraft
    obtain ⟨key, -, hset⟩ := List.mem_filterMap.mp hentry
    obtain ⟨value, hvalue, rfl⟩ := Option.map_eq_some_iff.mp hset
    exact isWritable_of_inRange hrange hvalue
  refine ⟨String.ofList (Toml.renderDocument a.drafts), a.drafts.flatMap Toml.statementsOf, ?_, ?_⟩
  · rw [String.toList_ofList]
    exact Toml.document_renderDocument hwidth hwritable
  · rw [Toml.sections_statementsOf]
    exact a.isSetBy_drafts

end Assignment

end SyscallPolicy
