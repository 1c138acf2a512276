import SyscallPolicy.Elimination.Monotone
import SyscallPolicy.Proofs.Profile.Audit
import SyscallPolicy.Proofs.Profile.Exposure
import SyscallPolicy.Proofs.Source
import SyscallPolicy.Proofs.Synthesis.Canonical

/-!
# Audits of synthesized profiles

A profile goes from the source over the synthesizer and the text to the
audit, and what the audit finds there is what the source answered: the
high-risk calls that it named with a permitting action, and nothing else.

* `mem_warnings_of_synthesize` says so of the analysis, for any answer;
* `isAuditedAs_nil_of_synthesize` is the case of an answer that permits no
  high-risk call, as the answers of searches (`eq_allow_of_mayAnswer`) and
  of templates (`isHighRisk_of_template?`) do.
-/

namespace SyscallPolicy

open Elimination (MayAnswer MayReport Report Runner Search Sight Universe)

/-- Whether an audit of either text of a profile warns about these calls. -/
def Profile.IsAuditedAs (p : Profile) (warnings : List String) : Prop :=
  ∀ text ∈ [p.compactText, p.prettyText], audit (.ofText text) = .ok ⟨warnings⟩

/-- Whether an answer lets a high-risk call of this name through. -/
def Rule.Exposes (rule : Rule) (name : String) : Prop :=
  rule.action.isPermitting = true ∧ name ∈ rule.names ∧ Syscall.isHighRisk name = true

variable {settings : SynthesisSettings} {answer : Option Rule} {p : Profile} {name : String}

theorem Profile.isAuditedAs_warnings (p : Profile) : p.IsAuditedAs p.verify.warnings :=
  audit_texts p

/-! ## What the analysis finds -/

theorem mem_warnings_of_synthesize (hprofile : synthesize settings answer = some p) :
    name ∈ p.verify.warnings ↔ ∃ rule, answer = some rule ∧ rule.Exposes name := by
  have hdefault : Action.errno.isPermitting = false := rfl
  rw [eq_of_synthesize hprofile, Profile.mem_warnings_iff]
  simp only [hdefault, Bool.false_eq_true, false_and, false_or, Profile.mem_namesWhere,
    mem_synthesizedRules_iff, Rule.Exposes]
  refine ⟨?_, ?_⟩
  · rintro ⟨hrisk, _, ⟨rule, hanswer, -, rfl⟩, hpermits, hname⟩
    exact ⟨rule, hanswer, hpermits, NameSet.mem_ofList.mp hname, hrisk⟩
  · rintro ⟨rule, hanswer, hpermits, hname, hrisk⟩
    exact ⟨hrisk, _, ⟨rule, hanswer, List.ne_nil_of_mem hname, rfl⟩, hpermits,
      NameSet.mem_ofList.mpr hname⟩

theorem isAuditedAs_nil_of_synthesize (hprofile : synthesize settings answer = some p)
    (hanswer : ∀ rule name, answer = some rule → ¬rule.Exposes name) : p.IsAuditedAs [] := by
  have hnone : p.verify.warnings = [] := by
    refine List.eq_nil_iff_forall_not_mem.mpr fun name hname => ?_
    obtain ⟨rule, hrule, hexposes⟩ := (mem_warnings_of_synthesize hprofile).mp hname
    exact hanswer rule name hrule hexposes
  exact hnone ▸ p.isAuditedAs_warnings

/-! ## Answers that expose nothing -/

theorem isHighRisk_of_mem_essential (hname : name ∈ Syscall.essential) :
    Syscall.isHighRisk name = false := by
  revert name
  decide +kernel

theorem isHighRisk_of_mem_commonCandidates (hname : name ∈ Syscall.commonCandidates) :
    Syscall.isHighRisk name = false := by
  revert name
  decide +kernel

theorem isHighRisk_of_template? {template : String} {names : List String}
    (htemplate : Syscall.template? template = some names) (hname : name ∈ names) :
    Syscall.isHighRisk name = false := by
  have hall : ∀ entry ∈ Syscall.templates, ∀ name ∈ entry.2, Syscall.isHighRisk name = false := by
    decide +kernel
  exact hall _ (Syscall.mem_templates_of_template? htemplate) name hname

/-- A search of calls without high risk exposes nothing, whatever its runs
come out as. -/
theorem not_exposes_of_mayAnswer {u : Universe} {workers : Nat}
    (hanswer : MayAnswer u workers (.ok answer))
    (hrisk : ∀ name ∈ u.names, Syscall.isHighRisk name = false) {rule : Rule}
    (hrule : answer = some rule) : ¬rule.Exposes name := by
  obtain ⟨names, rfl, hsubset⟩ := Elimination.eq_allow_of_mayAnswer hanswer
  obtain rfl := Option.some.inj hrule
  rintro ⟨-, hname, hhigh⟩
  have hlow : Syscall.isHighRisk name = false := by
    rcases List.mem_append.mp (hsubset hname) with hmem | hessential
    · exact hrisk name hmem
    · exact isHighRisk_of_mem_essential hessential
  rw [hlow] at hhigh
  cases hhigh

/-! ## From the source to the audit -/

section Source

variable {σ : Type} [DiscoverySource σ] {s : Synthesizer σ}

/-- A profile is made from one answer of the source. -/
theorem exists_answer_of_profile (hprofile : s.profile.1 = .ok (some p)) :
    ∃ answer, (DiscoverySource.query s.source).1 = .ok answer ∧
      synthesize s.settings answer = some p := by
  rw [Synthesizer.profile_answer] at hprofile
  cases hanswer : (DiscoverySource.query s.source).1 with
  | error failure =>
    rw [hanswer] at hprofile
    cases hprofile
  | ok answer =>
    rw [hanswer] at hprofile
    exact ⟨answer, rfl, Except.ok.inj hprofile⟩

theorem isAuditedAs_nil_of_mayAnswer {u : Universe} {workers : Nat}
    (hprofile : s.profile.1 = .ok (some p))
    (hmay : MayAnswer u workers (DiscoverySource.query s.source).1)
    (hrisk : ∀ name ∈ u.names, Syscall.isHighRisk name = false) : p.IsAuditedAs [] := by
  obtain ⟨answer, hanswer, hsynthesize⟩ := exists_answer_of_profile hprofile
  rw [hanswer] at hmay
  exact isAuditedAs_nil_of_synthesize hsynthesize fun rule name hrule =>
    not_exposes_of_mayAnswer hmay hrisk hrule

end Source

theorem isAuditedAs_nil_of_template {s : Synthesizer TemplateSource}
    (hprofile : s.profile.1 = .ok (some p)) : p.IsAuditedAs [] := by
  obtain ⟨answer, hanswer, hsynthesize⟩ := exists_answer_of_profile hprofile
  refine isAuditedAs_nil_of_synthesize hsynthesize fun rule name hrule => ?_
  obtain ⟨names, htemplate, rfl⟩ :=
    TemplateSource.eq_allow_of_discovery (hanswer.trans (congrArg Except.ok hrule))
  rintro ⟨-, hname, hhigh⟩
  rw [isHighRisk_of_template? htemplate hname] at hhigh
  cases hhigh

/-- The texts of a synthesized profile are audited with the high-risk calls
that the source named with a permitting action, each once and in order, and
with nothing else.  So nothing is found in what a search of calls without
high risk leads to, whatever its runs come out as and however many workers
share them, nor in what a template leads to. -/
theorem synthesized_profile_audited :
    (∀ (σ : Type) [DiscoverySource σ] (s : Synthesizer σ) (p : Profile),
      s.profile.1 = .ok (some p) →
        ∃ answer warnings, (DiscoverySource.query s.source).1 = .ok answer ∧
          p.IsAuditedAs warnings ∧ IsCanonical warnings ∧
          (∀ name, name ∈ warnings ↔ ∃ rule, answer = some rule ∧ rule.Exposes name) ∧
          ((∀ rule, answer = some rule → rule.names = [] ∨ rule.action.isPermitting = false) →
            warnings = [])) ∧
    (∀ (σ : Type) [DiscoverySource σ] (s : Synthesizer σ) (p : Profile) (u : Universe)
        (workers : Nat), s.profile.1 = .ok (some p) →
      MayAnswer u workers (DiscoverySource.query s.source).1 →
      (∀ name ∈ u.names, Syscall.isHighRisk name = false) → p.IsAuditedAs []) ∧
    (∀ (runner : Runner) (u : Universe) (workers : Nat) (sight : Sight) (report : Report),
      MayReport runner u workers sight report → MayAnswer u workers report.answer) ∧
    (∀ s : Search, MayAnswer s.candidates 1 (DiscoverySource.query s).1) ∧
    (∀ (runner : Runner) (processors : Nat) (name : String),
      name ∈ (Search.new runner processors).candidates.names →
        Syscall.isHighRisk name = false) ∧
    ∀ (s : Synthesizer TemplateSource) (p : Profile), s.profile.1 = .ok (some p) →
      p.IsAuditedAs [] := by
  refine ⟨fun σ _ s p hprofile => ?any, ?search, ?reports, ?inOrder, ?common, ?template⟩
  case any =>
    obtain ⟨answer, hanswer, hsynthesize⟩ := exists_answer_of_profile hprofile
    refine ⟨answer, p.verify.warnings, hanswer, p.isAuditedAs_warnings,
      NameSet.isCanonical_ofList _, fun name => mem_warnings_of_synthesize hsynthesize,
      fun hnothing => List.eq_nil_iff_forall_not_mem.mpr fun name hname => ?_⟩
    obtain ⟨rule, hrule, hpermits, hmem, -⟩ :=
      (mem_warnings_of_synthesize hsynthesize).mp hname
    rcases hnothing rule hrule with hnames | hrefuses
    · rw [hnames] at hmem
      cases hmem
    · rw [hrefuses] at hpermits
      cases hpermits
  case search => exact fun σ _ s p u workers => isAuditedAs_nil_of_mayAnswer
  case reports => exact fun runner u workers sight report => MayReport.mayAnswer
  case inOrder => exact fun s => (Elimination.mayReport_discover s .current).mayAnswer
  case common =>
    intro runner processors name hname
    exact isHighRisk_of_mem_commonCandidates (Universe.mem_ofList.mp hname)
  case template => exact fun s p => isAuditedAs_nil_of_template

/-- Two high-risk calls that are to be logged, one of them named twice, and a
search for a workload that needs one call. -/
theorem audit_of_logged_calls :
    (Synthesizer.mk (RecordedSource.mk
        [.ok (some ⟨["ptrace", "read", "mount", "ptrace"], .log⟩)]) ⟨["arm64"], true⟩).profile.1 =
      .ok (some ⟨.errno, [.arm, .aarch64], [⟨["mount", "ptrace", "read"], .log⟩]⟩) ∧
    (Profile.mk .errno [.arm, .aarch64] [⟨["mount", "ptrace", "read"], .log⟩]).IsAuditedAs
      ["mount", "ptrace"] ∧
    (Synthesizer.mk (Search.mk (Elimination.workingIn [["read"]]) (.ofList ["write", "read"]) 2)
        ⟨[], false⟩).profile.1 =
      .ok (some ⟨.errno, [], [.allow ["close", "execve", "exit", "exit_group", "futex", "read"]]⟩) ∧
    (Profile.mk .errno [] [.allow
      ["close", "execve", "exit", "exit_group", "futex", "read"]]).IsAuditedAs [] := by
  have hlogged : (Synthesizer.mk (RecordedSource.mk
        [.ok (some ⟨["ptrace", "read", "mount", "ptrace"], .log⟩)]) ⟨["arm64"], true⟩).profile.1 =
      .ok (some ⟨.errno, [.arm, .aarch64], [⟨["mount", "ptrace", "read"], .log⟩]⟩) := by
    decide +kernel
  have hfound : (Synthesizer.mk (Search.mk (Elimination.workingIn [["read"]])
        (.ofList ["write", "read"]) 2) ⟨[], false⟩).profile.1 =
      .ok (some ⟨.errno, [],
        [.allow ["close", "execve", "exit", "exit_group", "futex", "read"]]⟩) := by
    decide +kernel
  refine ⟨hlogged, ?_, hfound, ?_⟩
  · obtain ⟨answer, warnings, hanswer, haudit, hcanonical, hwarnings, -⟩ :=
      synthesized_profile_audited.1 _ _ _ hlogged
    obtain rfl : some (Rule.mk ["ptrace", "read", "mount", "ptrace"] .log) = answer :=
      Except.ok.inj hanswer
    have hexpected : IsCanonical ["mount", "ptrace"] := by
      unfold IsCanonical
      decide
    have heq : warnings = ["mount", "ptrace"] := by
      refine hcanonical.eq_of_mem_iff hexpected fun name => ?_
      have hread : Syscall.isHighRisk "read" = false := by decide +kernel
      have hmount : Syscall.isHighRisk "mount" = true := by decide +kernel
      have hptrace : Syscall.isHighRisk "ptrace" = true := by decide +kernel
      simp only [hwarnings, Option.some.injEq, exists_eq_left', Rule.Exposes, List.mem_cons,
        List.not_mem_nil, or_false]
      refine ⟨?_, ?_⟩
      · rintro ⟨-, rfl | rfl | rfl | rfl, hrisk⟩ <;> simp_all
      · rintro (rfl | rfl) <;> simp_all [Action.isPermitting]
    exact heq ▸ haudit
  · exact synthesized_profile_audited.2.1 _ _ _ _ 1 hfound
      (synthesized_profile_audited.2.2.2.1 _) (by decide +kernel)

end SyscallPolicy
