/-!
# First occurrences

`List.eraseDups` keeps a member of a list where it stands first.
-/

namespace SyscallPolicy

variable {α : Type} [BEq α] [LawfulBEq α]

/-- The first occurrences in a list are distinct. -/
theorem nodup_eraseDups (xs : List α) : xs.eraseDups.Nodup := by
  match xs with
  | [] => simp
  | x :: rest =>
    rw [List.eraseDups_cons]
    have shorter : (rest.filter fun other => !other == x).length < rest.length + 1 :=
      Nat.lt_succ_of_le (List.length_filter_le _ _)
    refine List.nodup_cons.2 ⟨?_, nodup_eraseDups _⟩
    intro h
    have := List.mem_eraseDups.1 h
    simp at this
termination_by xs.length
decreasing_by simpa using shorter

/-- Where nothing is repeated, every occurrence is the first. -/
theorem eraseDups_of_nodup {xs : List α} (hxs : xs.Nodup) : xs.eraseDups = xs := by
  induction xs with
  | nil => rfl
  | cons x rest ih =>
    obtain ⟨hx, hrest⟩ := List.nodup_cons.mp hxs
    have hkept : (rest.filter fun other => !other == x) = rest := by
      refine List.filter_eq_self.mpr fun other hother => ?_
      have hne : other ≠ x := fun heq => hx (heq ▸ hother)
      simpa using hne
    rw [List.eraseDups_cons, hkept, ih hrest]

/-- The first occurrences among those that were not seen before: the first
is seen from there on. -/
theorem eraseDups_unseen_cons {x : α} {xs seen : List α} (hx : seen.contains x = false) :
    ((x :: xs).filter fun other => !seen.contains other).eraseDups =
      x :: (xs.filter fun other => !(x :: seen).contains other).eraseDups := by
  rw [List.filter_cons_of_pos (by simpa using hx), List.eraseDups_cons, List.filter_filter]
  simp only [List.contains_cons, Bool.not_or]

end SyscallPolicy
