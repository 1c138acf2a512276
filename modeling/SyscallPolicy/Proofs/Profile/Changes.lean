import Mathlib.Logic.Relation
import SyscallPolicy.Proofs.Profile.Findings

/-!
# How changes of rules change the findings

One rule more adds its high-risk calls to the findings if it permits, takes
away what no other rule permits if it blocks, and changes nothing if it asks
a supervisor.  Where it is put among the other rules does not matter, and
neither does the default action, although that decides why a call was a
finding before (`mem_warnings_insert_of_permits`,
`mem_warnings_insert_of_blocks`, `verify_insert_of_supervises`).

`Rewording` are the ways to write the same rules otherwise.  Each of them
leaves every high-risk call with the same actions (`Rewording.namesAlike`),
and that is all that the analysis looks at besides the default action
(`verify_eq_of_namesAlike`).
-/

namespace SyscallPolicy

theorem Action.isBlocking_of_isPermitting {action : Action}
    (hpermits : action.isPermitting = true) : action.isBlocking = false := by
  cases action <;> simp_all [isBlocking, isPermitting]

theorem Action.isPermitting_of_isBlocking {action : Action} (hblocks : action.isBlocking = true) :
    action.isPermitting = false := by
  cases action <;> simp_all [isBlocking, isPermitting]

namespace Profile

variable {p q : Profile} {name : String} {rule : Rule} {rules others before after : List Rule}

/-- A profile with other rules. -/
def withRules (p : Profile) (rules : List Rule) : Profile :=
  { p with rules := rules }

@[simp]
theorem defaultAction_withRules : (p.withRules rules).defaultAction = p.defaultAction :=
  rfl

@[simp]
theorem rules_withRules : (p.withRules rules).rules = rules :=
  rfl

theorem exists_mem_insert_iff {P : Rule → Prop} : (∃ r ∈ before ++ rule :: after, P r) ↔
    P rule ∨ ∃ r ∈ before ++ after, P r := by
  simp only [List.mem_append, List.mem_cons, or_and_right, exists_or, exists_eq_left, or_left_comm]

/-! ## One rule more -/

section Insert

variable (hrules : p.rules = before ++ after)
include hrules

theorem mem_namesWhere_insert {choose : Action → Bool} :
    name ∈ (p.withRules (before ++ rule :: after)).namesWhere choose ↔
      choose rule.action = true ∧ name ∈ rule.names ∨ name ∈ p.namesWhere choose := by
  rw [mem_namesWhere, mem_namesWhere, rules_withRules, hrules, exists_mem_insert_iff]

theorem mem_warnings_insert_of_permits (hpermits : rule.action.isPermitting = true)
    (name : String) :
    name ∈ (p.withRules (before ++ rule :: after)).verify.warnings ↔
      name ∈ p.verify.warnings ∨ Syscall.isHighRisk name = true ∧ name ∈ rule.names := by
  rw [mem_warnings_iff, mem_warnings_iff, mem_namesWhere_insert hrules,
    mem_namesWhere_insert hrules, hpermits, Action.isBlocking_of_isPermitting hpermits,
    ← and_or_left]
  simp only [defaultAction_withRules, Bool.false_eq_true, false_and, false_or, true_and]
  rw [or_assoc, or_comm (a := name ∈ p.namesWhere Action.isPermitting)]

theorem mem_warnings_insert_of_blocks (hblocks : rule.action.isBlocking = true)
    (name : String) :
    name ∈ (p.withRules (before ++ rule :: after)).verify.warnings ↔
      name ∈ p.verify.warnings ∧
        ¬(name ∈ rule.names ∧ name ∉ p.namesWhere Action.isPermitting) := by
  rw [mem_warnings_iff, mem_warnings_iff, mem_namesWhere_insert hrules,
    mem_namesWhere_insert hrules, hblocks, Action.isPermitting_of_isBlocking hblocks]
  simp only [defaultAction_withRules, Bool.false_eq_true, false_and, false_or, true_and]
  by_cases hpermitted : name ∈ p.namesWhere Action.isPermitting
  · simp [hpermitted]
  · simp only [hpermitted, or_false, not_or, not_false_eq_true, and_true, and_assoc]
    rw [and_comm (a := name ∉ rule.names)]

theorem verify_insert_of_supervises (hsupervises : rule.action = .trace ∨ rule.action = .notify) :
    (p.withRules (before ++ rule :: after)).verify = p.verify := by
  have hpermits : rule.action.isPermitting = false := by
    rcases hsupervises with haction | haction <;> rw [haction] <;> rfl
  have hblocks : rule.action.isBlocking = false := by
    rcases hsupervises with haction | haction <;> rw [haction] <;> rfl
  refine verify_eq_of_mem_iff fun name => ?_
  rw [mem_warnings_iff, mem_warnings_iff, mem_namesWhere_insert hrules,
    mem_namesWhere_insert hrules, hpermits, hblocks]
  simp only [defaultAction_withRules, Bool.false_eq_true, false_and, false_or]

end Insert

/-! ## Other words for the same rules -/

/-- Whether rules name the same high-risk calls with the same actions. -/
def NamesAlike (rules others : List Rule) : Prop :=
  ∀ name, Syscall.isHighRisk name = true → ∀ action,
    (∃ rule ∈ rules, rule.action = action ∧ name ∈ rule.names) ↔
      ∃ rule ∈ others, rule.action = action ∧ name ∈ rule.names

theorem mem_namesWhere_iff_exists_action {choose : Action → Bool} :
    name ∈ p.namesWhere choose ↔ ∃ action, choose action = true ∧
      ∃ rule ∈ p.rules, rule.action = action ∧ name ∈ rule.names := by
  rw [mem_namesWhere]
  refine ⟨?_, ?_⟩
  · rintro ⟨rule, hrule, hchoose, hname⟩
    exact ⟨rule.action, hchoose, rule, hrule, rfl, hname⟩
  · rintro ⟨_, hchoose, rule, hrule, rfl, hname⟩
    exact ⟨rule, hrule, hchoose, hname⟩

/-- The analysis looks at the default action, and at who names a high-risk
call with which action. -/
theorem verify_eq_of_namesAlike (hdefault : p.defaultAction = q.defaultAction)
    (halike : NamesAlike p.rules q.rules) : p.verify = q.verify := by
  refine verify_eq_of_mem_iff fun name => ?_
  rw [mem_warnings_iff, mem_warnings_iff]
  refine and_congr_right fun hrisk => ?_
  simp only [mem_namesWhere_iff_exists_action, hdefault, halike name hrisk]

/-- One way to write the rules of a profile otherwise. -/
inductive Rewording : List Rule → List Rule → Prop
  /-- The rules change places. -/
  | permuted {rules others : List Rule} (perm : rules.Perm others) : Rewording rules others
  /-- A rule lists its calls in another order, repeats them or not, and names
  other calls or none that are not high-risk. -/
  | renamed {rule other : Rule} (before after : List Rule) (action : rule.action = other.action)
      (names : ∀ name, Syscall.isHighRisk name = true →
        (name ∈ rule.names ↔ name ∈ other.names)) :
      Rewording (before ++ rule :: after) (before ++ other :: after)
  /-- A rule is split in two. -/
  | divided (before after : List Rule) (names others : List String) (action : Action) :
      Rewording (before ++ ⟨names ++ others, action⟩ :: after)
        (before ++ ⟨names, action⟩ :: ⟨others, action⟩ :: after)
  /-- A rule that names no high-risk call is left out. -/
  | dropped {rule : Rule} (before after : List Rule)
      (names : ∀ name ∈ rule.names, Syscall.isHighRisk name = false) :
      Rewording (before ++ rule :: after) (before ++ after)

theorem Rewording.namesAlike (h : Rewording rules others) : NamesAlike rules others := by
  intro name hrisk action
  cases h with
  | permuted perm => simp only [perm.mem_iff]
  | renamed before after haction hnames =>
    rw [exists_mem_insert_iff, exists_mem_insert_iff, haction, hnames name hrisk]
  | divided before after names others =>
    rw [exists_mem_insert_iff, exists_mem_insert_iff, exists_mem_insert_iff, ← or_assoc,
      ← and_or_left, List.mem_append]
  | dropped before after hnames =>
    rw [exists_mem_insert_iff]
    refine or_iff_right ?_
    rintro ⟨-, hname⟩
    rw [hnames name hname] at hrisk
    cases hrisk

/-- However often rules are put in other words, and back, they name the same
calls. -/
theorem namesAlike_of_rewordings (h : Relation.EqvGen Rewording rules others) :
    NamesAlike rules others := by
  induction h with
  | rel _ _ hrewording => exact hrewording.namesAlike
  | refl _ => exact fun _ _ _ => Iff.rfl
  | symm _ _ _ ih => exact fun name hrisk action => (ih name hrisk action).symm
  | trans _ _ _ _ _ ih₁ ih₂ =>
    exact fun name hrisk action => (ih₁ name hrisk action).trans (ih₂ name hrisk action)

/-- What one rule more does to the findings, wherever it is put and whatever
the default action is; and that nothing but the words changes when rules or
names change places or are repeated, rules of one action are split or joined,
calls without high risk come or go, or the profile applies elsewhere. -/
theorem findings_of_changed_rules (p : Profile) :
    (∀ before rule after, p.rules = before ++ after →
      (rule.action.isPermitting = true →
        (∀ name, name ∈ (p.withRules (before ++ rule :: after)).verify.warnings ↔
          name ∈ p.verify.warnings ∨ Syscall.isHighRisk name = true ∧ name ∈ rule.names) ∧
        p.verify.warnings ⊆ (p.withRules (before ++ rule :: after)).verify.warnings) ∧
      (rule.action.isBlocking = true →
        (∀ name, name ∈ (p.withRules (before ++ rule :: after)).verify.warnings ↔
          name ∈ p.verify.warnings ∧ ¬(name ∈ rule.names ∧
            ∀ other ∈ p.rules, other.action.isPermitting = true → name ∉ other.names)) ∧
        (p.withRules (before ++ rule :: after)).verify.warnings ⊆ p.verify.warnings) ∧
      (rule.action = .trace ∨ rule.action = .notify →
        (p.withRules (before ++ rule :: after)).verify = p.verify)) ∧
    ∀ q : Profile, p.defaultAction = q.defaultAction →
      Relation.EqvGen Rewording p.rules q.rules → p.verify = q.verify := by
  refine ⟨fun before rule after hrules => ⟨fun hpermits => ?permits, fun hblocks => ?blocks,
    verify_insert_of_supervises hrules⟩, fun q hdefault hrewordings => ?reworded⟩
  case permits =>
    have hmem := mem_warnings_insert_of_permits hrules hpermits
    exact ⟨hmem, fun name hname => (hmem name).mpr (.inl hname)⟩
  case blocks =>
    have hmem := mem_warnings_insert_of_blocks hrules hblocks
    simp only [not_mem_namesWhere] at hmem
    exact ⟨hmem, fun name hname => ((hmem name).mp hname).1⟩
  case reworded =>
    exact verify_eq_of_namesAlike hdefault (namesAlike_of_rewordings hrewordings)

/-- Under a permitting default, a rule in front that permits a blocked call, a
rule behind that blocks two calls of which one is logged, and other words for
the rules. -/
theorem findings_of_changed_mount_and_bpf : ∃ p : Profile,
    p = ⟨.allow, [], [⟨["mount"], .log⟩, ⟨["bpf"], .errno⟩]⟩ ∧ "bpf" ∉ p.verify.warnings ∧
    "bpf" ∈ (p.withRules ([] ++ ⟨["bpf"], .allow⟩ :: p.rules)).verify.warnings ∧
    "mount" ∈ (p.withRules (p.rules ++ ⟨["mount", "ptrace"], .kill⟩ :: [])).verify.warnings ∧
    "ptrace" ∉ (p.withRules (p.rules ++ ⟨["mount", "ptrace"], .kill⟩ :: [])).verify.warnings ∧
    (p.withRules (p.rules ++ ⟨["swapon"], .trace⟩ :: [])).verify = p.verify ∧
    p.verify = (Profile.mk .allow [.arm]
      [⟨["bpf"], .errno⟩, ⟨["read", "bpf"], .errno⟩, ⟨["mount"], .log⟩]).verify := by
  obtain ⟨p, hp⟩ : ∃ p : Profile, p = ⟨.allow, [], [⟨["mount"], .log⟩, ⟨["bpf"], .errno⟩]⟩ :=
    ⟨_, rfl⟩
  have hbpf : "bpf" ∉ p.verify.warnings := by
    rw [hp]
    decide +kernel
  have hmount : "mount" ∈ p.verify.warnings := by
    rw [hp]
    decide +kernel
  have hptrace : ∀ other ∈ p.rules, other.action.isPermitting = true → "ptrace" ∉ other.names := by
    rw [hp]
    decide
  have hlogged : ¬∀ other ∈ p.rules, other.action.isPermitting = true → "mount" ∉ other.names := by
    rw [hp]
    decide
  obtain ⟨hinsert, hreworded⟩ := findings_of_changed_rules p
  obtain ⟨hpermits, -, -⟩ := hinsert [] ⟨["bpf"], .allow⟩ p.rules rfl
  have hlast : p.rules = p.rules ++ [] := p.rules.append_nil.symm
  obtain ⟨-, hblocks, -⟩ := hinsert p.rules ⟨["mount", "ptrace"], .kill⟩ [] hlast
  obtain ⟨-, -, hsupervises⟩ := hinsert p.rules ⟨["swapon"], .trace⟩ [] hlast
  refine ⟨p, hp, hbpf, ?_, ?_, ?_, hsupervises (.inl rfl), hreworded _ ?_ ?_⟩
  · exact ((hpermits rfl).1 "bpf").mpr (.inr ⟨by decide +kernel, by simp⟩)
  · exact ((hblocks rfl).1 "mount").mpr ⟨hmount, fun h => hlogged h.2⟩
  · exact fun h => (((hblocks rfl).1 "ptrace").mp h).2 ⟨by simp, hptrace⟩
  · rw [hp]
  · rw [hp]
    refine .trans _ [⟨["bpf"], .errno⟩, ⟨["mount"], .log⟩] _
      (.rel _ _ (.permuted (.swap _ _ []))) ?_
    refine .trans _ [⟨["bpf", "read", "bpf"], .errno⟩, ⟨["mount"], .log⟩] _
      (.rel _ _ ?_) (.rel _ _ ?_)
    · refine @Rewording.renamed ⟨["bpf"], .errno⟩ ⟨["bpf", "read", "bpf"], .errno⟩ []
        [⟨["mount"], .log⟩] rfl fun name hrisk => ?_
      have hread : name ≠ "read" := by
        rintro rfl
        revert hrisk
        decide +kernel
      simp [hread]
    · exact .divided [] [⟨["mount"], .log⟩] ["bpf"] ["read", "bpf"] .errno

end Profile

end SyscallPolicy
