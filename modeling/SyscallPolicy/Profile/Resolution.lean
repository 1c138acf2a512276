import Mathlib.Data.List.MinMax
import SyscallPolicy.Profile.Basic

/-!
# Resolving rules that disagree

Nothing keeps two rules of a profile from naming the same call, and a kernel or a loader
may settle that in different ways.  A resolution is any such way: it gives a call the
action of some rule that names it, or the default action if no rule does.
-/

namespace SyscallPolicy

namespace Profile

/-- Whether some rule names a call. -/
def IsNamed (p : Profile) (name : String) : Prop :=
  ∃ rule ∈ p.rules, name ∈ rule.names

/-- Whether a function settles the rules of a profile. -/
structure IsResolution (p : Profile) (resolve : String → Action) : Prop where
  named : ∀ name, p.IsNamed name → ∃ rule ∈ p.rules, name ∈ rule.names ∧ resolve name = rule.action
  unnamed : ∀ name, ¬ p.IsNamed name → resolve name = p.defaultAction

/-- The rule that is written first counts. -/
def firstMatch (p : Profile) (name : String) : Action :=
  ((p.rules.find? fun rule => rule.names.contains name).map (·.action)).getD p.defaultAction

theorem isResolution_firstMatch (p : Profile) : p.IsResolution p.firstMatch where
  named name := by
    rintro ⟨rule, h, member⟩
    have found : (p.rules.find? fun rule => rule.names.contains name).isSome :=
      List.find?_isSome.2 ⟨rule, h, by simpa using member⟩
    obtain ⟨first, eq⟩ := Option.isSome_iff_exists.1 found
    exact ⟨first, List.mem_of_find?_eq_some eq, by simpa using List.find?_some eq,
      by rw [firstMatch, eq]; rfl⟩
  unnamed name h := by
    have none_found : (p.rules.find? fun rule => rule.names.contains name) = none :=
      List.find?_eq_none.2 fun rule member named => h ⟨rule, member, by simpa using named⟩
    rw [firstMatch, none_found]; rfl

/-- The actions of the rules that name a call, in written order. -/
def actionsFor (p : Profile) (name : String) : List Action :=
  (p.rules.filter fun rule => rule.names.contains name).map (·.action)

/-- The rule that is written last counts. -/
def lastMatch (p : Profile) (name : String) : Action :=
  (p.actionsFor name).getLast?.getD p.defaultAction

/-- A rule whose action has the highest rank counts, so the most restrictive one or the
least restrictive one, as actions are ranked. -/
def highestMatch (rank : Action → Nat) (p : Profile) (name : String) : Action :=
  ((p.actionsFor name).argmax rank).getD p.defaultAction

theorem mem_actionsFor {p : Profile} {name : String} {action : Action} :
    action ∈ p.actionsFor name ↔ ∃ rule ∈ p.rules, name ∈ rule.names ∧ action = rule.action := by
  simp [actionsFor, and_assoc, eq_comm]

theorem actionsFor_eq_nil_iff {p : Profile} {name : String} :
    p.actionsFor name = [] ↔ ¬ p.IsNamed name := by
  simp [actionsFor, IsNamed, List.filter_eq_nil_iff]

/-- Any way to choose one of several actions settles the rules of a profile. -/
theorem isResolution_of_choose {choose : List Action → Option Action}
    (hmem : ∀ actions action, choose actions = some action → action ∈ actions)
    (hnone : ∀ actions, choose actions = none → actions = []) (p : Profile) :
    p.IsResolution fun name => (choose (p.actionsFor name)).getD p.defaultAction where
  named name hnamed := by
    cases hchosen : choose (p.actionsFor name) with
    | none => exact absurd hnamed (actionsFor_eq_nil_iff.mp (hnone _ hchosen))
    | some action => exact mem_actionsFor.mp (hmem _ _ hchosen)
  unnamed name hunnamed := by
    cases hchosen : choose (p.actionsFor name) with
    | none => rfl
    | some action =>
      have hfound := hmem _ _ hchosen
      rw [actionsFor_eq_nil_iff.mpr hunnamed] at hfound
      cases hfound

theorem isResolution_lastMatch (p : Profile) : p.IsResolution p.lastMatch :=
  isResolution_of_choose (fun _ _ hlast => List.mem_of_getLast? hlast)
    (fun _ hlast => List.getLast?_eq_none_iff.mp hlast) p

theorem isResolution_highestMatch (rank : Action → Nat) (p : Profile) :
    p.IsResolution (p.highestMatch rank) :=
  isResolution_of_choose (fun _ _ hmax => List.argmax_mem hmax)
    (fun _ hmax => List.argmax_eq_none.mp hmax) p

end Profile

end SyscallPolicy
