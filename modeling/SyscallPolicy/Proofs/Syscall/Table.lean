import Mathlib.Data.List.Nodup
import SyscallPolicy.Syscall.Table

/-!
# The table of system calls names each call once

No name stands in the table twice (`nodup_names`), so a number is known by
its name (`nameOf?_injective`), and looking up the name gives it back
(`idOf?_of_nameOf?`).

Comparing the names two by two would take long.  `areMarked` goes through a
list once instead and sets one bit for each member; where no bit is set
twice, no member is repeated.
-/

namespace SyscallPolicy.Syscall

/-- Whether the bits that mark the members of a list are all different, and
none of them is among those set before. -/
def areMarked {α : Type} (mark : α → Nat) : Nat → List α → Bool
  | _, [] => true
  | before, x :: xs => !before.testBit (mark x) && areMarked mark (before ||| 1 <<< mark x) xs

theorem testBit_of_areMarked {α : Type} {mark : α → Nat} {xs : List α} {before : Nat}
    (hmarked : areMarked mark before xs = true) {x : α} (hx : x ∈ xs) :
    before.testBit (mark x) = false := by
  induction xs generalizing before with
  | nil => cases hx
  | cons y ys ih =>
    simp only [areMarked, Bool.and_eq_true, Bool.not_eq_true'] at hmarked
    rcases List.mem_cons.mp hx with rfl | hx
    · exact hmarked.1
    · have hlater := ih hmarked.2 hx
      rw [Nat.testBit_or, Bool.or_eq_false_iff] at hlater
      exact hlater.1

theorem nodup_of_areMarked {α : Type} {mark : α → Nat} {xs : List α} {before : Nat}
    (hmarked : areMarked mark before xs = true) : xs.Nodup := by
  induction xs generalizing before with
  | nil => exact List.nodup_nil
  | cons x xs ih =>
    simp only [areMarked, Bool.and_eq_true] at hmarked
    refine List.nodup_cons.mpr ⟨fun hx => ?_, ih hmarked.2⟩
    have hlater := testBit_of_areMarked hmarked.2 hx
    simp [Nat.testBit_or] at hlater

/-- The remainder that marks a name: the names of the table have different
ones. -/
def nameMark (name : String) : Nat :=
  name.toByteArray.data.toList.foldl (fun value b => value * 256 + b.toNat) 0 % 9358

theorem nodup_names : (legacyNames ++ unifiedNames).Nodup := by
  have hmarked : areMarked nameMark 0 (legacyNames ++ unifiedNames) = true := by decide +kernel
  exact nodup_of_areMarked hmarked

/-- A name stands at one place of the two lists, and the place says its
number. -/
theorem exists_place_of_nameOf? {id : Nat} {name : String} (hname : nameOf? id = some name) :
    ∃ place, (legacyNames ++ unifiedNames)[place]? = some name ∧
      id = if place < legacyNames.length then place
        else unifiedBase + (place - legacyNames.length) := by
  unfold nameOf? at hname
  split at hname
  case isTrue =>
    have hplace := (List.getElem?_eq_some_iff.mp hname).1
    refine ⟨id, ?_, (if_pos hplace).symm⟩
    rw [List.getElem?_append_left hplace, hname]
  case isFalse hbase =>
    refine ⟨legacyNames.length + (id - unifiedBase), ?_, ?_⟩
    · rw [List.getElem?_append_right (Nat.le_add_right _ _), Nat.add_sub_cancel_left, hname]
    · rw [if_neg (Nat.not_lt.mpr (Nat.le_add_right _ _)), Nat.add_sub_cancel_left,
        Nat.add_sub_of_le (Nat.not_lt.mp hbase)]

/-- Different numbers have different names. -/
theorem nameOf?_injective {i j : Nat} {name : String} (hi : nameOf? i = some name)
    (hj : nameOf? j = some name) : i = j := by
  obtain ⟨k, hk, hplace⟩ := exists_place_of_nameOf? hi
  obtain ⟨l, hl, hplace'⟩ := exists_place_of_nameOf? hj
  have hlength := (List.getElem?_eq_some_iff.mp hk).1
  have hsame : k = l := (List.getElem?_inj hlength nodup_names).mp (hk.trans hl.symm)
  rw [hplace, hplace', hsame]

theorem idxOf?_of_nodup {names : List String} (hnames : names.Nodup) {place : Nat} {name : String}
    (hplace : names[place]? = some name) : names.idxOf? name = some place := by
  obtain ⟨hlength, rfl⟩ := List.getElem?_eq_some_iff.mp hplace
  refine List.idxOf?_eq_some_iff.mpr ⟨hlength, rfl, fun earlier hlt heq => ?_⟩
  exact absurd ((List.Nodup.getElem_inj_iff hnames).mp heq) (Nat.ne_of_lt hlt)

/-- A call is found by its name. -/
theorem idOf?_of_nameOf? {id : Nat} {name : String} (hname : nameOf? id = some name) :
    idOf? name = some id := by
  have hlegacy : legacyNames.Nodup := nodup_names.of_append_left
  have hunified : unifiedNames.Nodup := nodup_names.of_append_right
  obtain ⟨place, hplace, hid⟩ := exists_place_of_nameOf? hname
  rw [hid, idOf?]
  split_ifs with hlength
  · rw [List.getElem?_append_left hlength] at hplace
    rw [idxOf?_of_nodup hlegacy hplace]
  · rw [List.getElem?_append_right (Nat.le_of_not_lt hlength)] at hplace
    have hother : name ∉ legacyNames := fun hmem =>
      List.disjoint_of_nodup_append nodup_names hmem (List.mem_of_getElem? hplace)
    rw [List.idxOf?_eq_none_iff.mpr hother, idxOf?_of_nodup hunified hplace, Option.map_some,
      Nat.add_comm]

end SyscallPolicy.Syscall
