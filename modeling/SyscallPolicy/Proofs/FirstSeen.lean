import Mathlib.Data.List.Induction
import Mathlib.Data.List.Nodup
import SyscallPolicy.FirstOccurrences

/-!
# What is seen first

`IsFirstSeen` says what it is to keep first occurrences, without a word on
how that is done; logs, executables and searches all do it.
-/

namespace SyscallPolicy

variable {α : Type} [BEq α]

/-- Whether a list has the members of another one, each once, in the order in
which they first come there. -/
structure IsFirstSeen (names seen : List α) : Prop where
  mem_iff : ∀ x, x ∈ names ↔ x ∈ seen
  ordered : names.Pairwise fun x y => seen.idxOf x < seen.idxOf y

theorem IsFirstSeen.nodup {names seen : List α} (h : IsFirstSeen names seen) : names.Nodup :=
  h.ordered.imp fun hlt heq => Nat.ne_of_lt hlt (congrArg seen.idxOf heq)

variable [LawfulBEq α]

theorem isFirstSeen_eraseDups (seen : List α) : IsFirstSeen seen.eraseDups seen where
  mem_iff _ := List.mem_eraseDups
  ordered := by
    -- From the end: the last one is new behind all others, or it is dropped.
    induction seen using List.reverseRecOn with
    | nil => exact List.Pairwise.nil
    | append_singleton before x ih =>
      have hbefore : before.eraseDups.Pairwise fun y z =>
          (before ++ [x]).idxOf y < (before ++ [x]).idxOf z := by
        refine ih.imp_of_mem fun hy hz hlt => ?_
        rw [List.idxOf_append_of_mem (List.mem_eraseDups.mp hy),
          List.idxOf_append_of_mem (List.mem_eraseDups.mp hz)]
        exact hlt
      rw [List.eraseDups_append]
      by_cases hx : x ∈ before
      · have hdropped : [x].removeAll before = [] := by simp [List.removeAll, hx]
        rw [hdropped, List.eraseDups_nil, List.append_nil]
        exact hbefore
      · have hnew : [x].removeAll before = [x] := by simp [List.removeAll, hx]
        rw [hnew, eraseDups_of_nodup (List.nodup_singleton x)]
        refine List.pairwise_append.mpr ⟨hbefore, List.pairwise_singleton _ _, fun y hy z hz => ?_⟩
        obtain rfl := List.mem_singleton.mp hz
        have hy := List.mem_eraseDups.mp hy
        rw [List.idxOf_append_of_mem hy, List.idxOf_append_of_notMem hx, List.idxOf_cons_self]
        exact List.idxOf_lt_length_of_mem hy

end SyscallPolicy
