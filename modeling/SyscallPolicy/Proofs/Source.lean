import SyscallPolicy.Elimination.Monotone
import SyscallPolicy.Proofs.AuditLog.FirstQuery
import SyscallPolicy.Proofs.Elimination.Sequential
import SyscallPolicy.Proofs.FirstSeen
import SyscallPolicy.Source

/-!
# What the sources report

Whoever reads the rule of a built-in source may rely on it: the rule allows,
and it names no call twice.  The sources see to that in different ways.  A
log drops numbers that it has seen, and no two numbers have one name
(`Syscall.nameOf?_injective`).  A search selects from distinct candidates
and adds the essential calls that are not among them
(`Universe.nodup_reported`).  A template is distinct as it stands, and an
executable's calls are named where they are listed first.
-/

namespace SyscallPolicy

open Elimination (MayAnswer MayReport Report Runner Search Sight Universe)

/-! ## Rules -/

/-- Whether a rule allows calls and names none of them twice. -/
structure Rule.IsProper (rule : Rule) : Prop where
  allows : rule.action = .allow
  nodup : rule.names.Nodup

theorem Rule.isProper_allow {names : List String} (hnames : names.Nodup) :
    (Rule.allow names).IsProper :=
  ⟨rfl, hnames⟩

/-! ## Logs -/

namespace AuditLog

variable {log : AuditLog} {rule : Rule}

/-- A query that reports a rule has read all lines, and none of them stopped
it. -/
theorem eq_allow_of_query (hanswer : log.query.1 = .ok (some rule)) :
    rule = .allow (namesIn log.pids [] log.unread) ∧ rule.names ≠ [] ∧
      (∀ line ∈ log.unread, obstacle? log.pids line = none) ∧ log.query.2.unread = [] := by
  cases hpids : isSearchable log.pids with
  | false =>
    rw [query_of_not_isSearchable hpids] at hanswer
    cases hanswer
  | true =>
    have hclear : ¬HasObstacle log.pids log.unread := by
      intro hobstacle
      obtain ⟨id, hfails⟩ := (isUnsupported_query_iff hpids).mpr hobstacle
      rw [hfails] at hanswer
      cases hanswer
    have hlines := not_hasObstacle_iff.mp hclear
    rw [query_of_clear hpids hclear] at hanswer
    have hread : log.query.2.unread = [] := by
      rw [query_eq hpids, behind_succ_of_clear hlines]
    cases hfault : log.fault with
    | some reason =>
      rw [hfault] at hanswer
      cases hanswer
    | none =>
      simp only [hfault, Except.ok.injEq, discovery_eq, Option.ite_none_right_eq_some,
        Option.some.injEq] at hanswer
      obtain ⟨hnames, rfl⟩ := hanswer
      exact ⟨rfl, hnames, hlines, hread⟩

/-- Calls that the table assigns numbers to are found again by their names. -/
theorem map_idOf?_filterMap {ids : List Nat}
    (hids : ∀ id ∈ ids, ∃ name, Syscall.nameOf? id = some name) :
    (ids.filterMap Syscall.nameOf?).map some = ids.map Syscall.nameOf? ∧
      (ids.filterMap Syscall.nameOf?).map Syscall.idOf? = ids.map some := by
  induction ids with
  | nil => exact ⟨rfl, rfl⟩
  | cons id rest ih =>
    obtain ⟨⟨name, hname⟩, hrest⟩ := List.forall_mem_cons.mp hids
    obtain ⟨hnames, hnumbers⟩ := ih hrest
    rw [List.filterMap_cons_some hname]
    simp only [List.map_cons, hnames, hnumbers, hname, Syscall.idOf?_of_nameOf? hname, and_self]

/-- The rule of a log, in terms of the numbers on the lines that were read. -/
theorem exists_numbers_of_query (hanswer : log.query.1 = .ok (some rule)) :
    ∃ scanned ids, log.unread = scanned ++ log.query.2.unread ∧
      IsFirstSeen ids (scanned.filterMap (lineId? log.pids)) ∧
      rule.names.map some = ids.map Syscall.nameOf? ∧
      rule.names.map Syscall.idOf? = ids.map some := by
  obtain ⟨rfl, -, hclear, hread⟩ := eq_allow_of_query hanswer
  have hids : ∀ id ∈ (log.unread.filterMap (lineId? log.pids)).eraseDups,
      ∃ name, Syscall.nameOf? id = some name := by
    intro id hid
    obtain ⟨line, hline, hrecord⟩ := List.mem_filterMap.mp (List.mem_eraseDups.mp hid)
    exact obstacle?_eq_none_iff.mp (hclear line hline) id hrecord
  have hnames : namesIn log.pids [] log.unread =
      (log.unread.filterMap (lineId? log.pids)).eraseDups.filterMap Syscall.nameOf? := by
    simp [namesIn]
  refine ⟨log.unread, _, by rw [hread, List.append_nil], isFirstSeen_eraseDups _, ?_⟩
  rw [Rule.allow, hnames]
  exact map_idOf?_filterMap hids

end AuditLog

/-! ## Searches, templates and executables -/

namespace Elimination

variable {u : Universe} {workers : Nat} {rule : Rule}

theorem isProper_of_mayAnswer (hanswer : MayAnswer u workers (.ok (some rule))) :
    rule.IsProper ∧ Syscall.essential ⊆ rule.names ∧ rule.names ⊆ u.names ++ Syscall.essential := by
  obtain ⟨required, hrule⟩ := exists_required_of_mayAnswer hanswer
  obtain rfl := Option.some.inj hrule
  exact ⟨Rule.isProper_allow (Universe.nodup_reported required),
    Universe.essential_subset_reported required, reported_subset required⟩

theorem nodup_commonCandidates : Syscall.commonCandidates.Nodup := by
  have hmarked : Syscall.areMarked Syscall.nameMark 0 Syscall.commonCandidates = true := by
    decide +kernel
  exact Syscall.nodup_of_areMarked hmarked

/-- The common candidates are distinct, so a search takes them as they stand. -/
theorem names_new (runner : Runner) (processors : Nat) :
    (Search.new runner processors).candidates.names = Syscall.commonCandidates :=
  Universe.names_ofList_of_nodup nodup_commonCandidates

end Elimination

theorem Syscall.mem_templates_of_template? {name : String} {names : List String}
    (htemplate : template? name = some names) : (name, names) ∈ templates := by
  obtain ⟨before, after, hentries, -⟩ := List.lookup_eq_some_iff.mp htemplate
  rw [hentries]
  exact List.mem_append_right before List.mem_cons_self

theorem TemplateSource.eq_allow_of_discovery {s : TemplateSource} {rule : Rule}
    (hanswer : s.discovery = .ok (some rule)) :
    ∃ names, Syscall.template? s.name = some names ∧ rule = .allow names := by
  unfold TemplateSource.discovery at hanswer
  split at hanswer
  case h_1 names htemplate =>
    obtain rfl := Option.some.inj (Except.ok.inj hanswer)
    exact ⟨names, htemplate, rfl⟩
  case h_2 => cases hanswer

theorem isProper_of_template {s : TemplateSource} {rule : Rule}
    (hanswer : s.discovery = .ok (some rule)) :
    rule.IsProper ∧ Syscall.template? s.name = some rule.names := by
  have hall : ∀ entry ∈ Syscall.templates, entry.2.Nodup := by decide +kernel
  obtain ⟨names, htemplate, rfl⟩ := TemplateSource.eq_allow_of_discovery hanswer
  exact ⟨Rule.isProper_allow (hall _ (Syscall.mem_templates_of_template? htemplate)), htemplate⟩

theorem isProper_of_binary {s : BinarySource} {rule : Rule}
    (hanswer : s.discovery = .ok (some rule)) :
    rule.IsProper ∧ ∃ extracted, s.extract s.path = .ok extracted ∧
      IsFirstSeen rule.names extracted := by
  unfold BinarySource.discovery at hanswer
  cases hextracted : s.extract s.path with
  | error failure =>
    rw [hextracted] at hanswer
    cases hanswer
  | ok extracted =>
    rw [hextracted] at hanswer
    obtain rfl := Option.some.inj (Except.ok.inj hanswer)
    have hseen := isFirstSeen_eraseDups extracted
    exact ⟨Rule.isProper_allow hseen.nodup, extracted, rfl, hseen⟩

/-! ## All of them -/

/-- A rule that a built-in source reports, in whatever state it is asked,
allows calls and names none twice.  The calls of a log are those with the
numbers on the lines that this query read, and there are some.  A search
reports the essential calls and no others but candidates, whatever its runs
come out as and however many workers share them.  The calls of an executable
are those that were found in it. -/
theorem reported_rules_proper :
    (∀ (log : AuditLog) (rule : Rule), (DiscoverySource.query log).1 = .ok (some rule) →
      rule.IsProper ∧ rule.names ≠ [] ∧
        ∃ scanned ids, log.unread = scanned ++ (DiscoverySource.query log).2.unread ∧
          IsFirstSeen ids (scanned.filterMap (AuditLog.lineId? log.pids)) ∧
          rule.names.map some = ids.map Syscall.nameOf? ∧
          rule.names.map Syscall.idOf? = ids.map some) ∧
    (∀ (u : Universe) (workers : Nat) (rule : Rule), MayAnswer u workers (.ok (some rule)) →
      rule.IsProper ∧ Syscall.essential ⊆ rule.names ∧
        rule.names ⊆ u.names ++ Syscall.essential) ∧
    (∀ (runner : Runner) (u : Universe) (workers : Nat) (sight : Sight) (report : Report),
      MayReport runner u workers sight report → MayAnswer u workers report.answer) ∧
    (∀ s : Search, MayAnswer s.candidates 1 (DiscoverySource.query s).1) ∧
    (∀ (runner : Runner) (processors : Nat),
      (Search.new runner processors).candidates.names = Syscall.commonCandidates) ∧
    (∀ (s : TemplateSource) (rule : Rule), (DiscoverySource.query s).1 = .ok (some rule) →
      rule.IsProper ∧ Syscall.template? s.name = some rule.names) ∧
    ∀ (s : BinarySource) (rule : Rule), (DiscoverySource.query s).1 = .ok (some rule) →
      rule.IsProper ∧ ∃ extracted, s.extract s.path = .ok extracted ∧
        IsFirstSeen rule.names extracted := by
  refine ⟨?log, ?search, ?reports, ?inOrder, Elimination.names_new, ?template, ?binary⟩
  case log =>
    intro log rule hanswer
    obtain ⟨rfl, hnames, -⟩ := AuditLog.eq_allow_of_query hanswer
    exact ⟨Rule.isProper_allow (AuditLog.nodup_namesIn _ _ _), hnames,
      AuditLog.exists_numbers_of_query hanswer⟩
  case search => exact fun u workers rule => Elimination.isProper_of_mayAnswer
  case reports => exact fun runner u workers sight report => MayReport.mayAnswer
  case inOrder => exact fun s => (Elimination.mayReport_discover s .current).mayAnswer
  case template => exact fun s rule => isProper_of_template
  case binary => exact fun s rule => isProper_of_binary

/-- A log that is queried again behind a number that no call has, a search, a
template, and an executable in which calls are found repeatedly. -/
theorem rules_of_four_sources :
    ∃ (log : AuditLog) (search : Search) (template : TemplateSource) (binary : BinarySource),
      log = (AuditLog.ofStream (.ofText ("audit: pid=7 syscall=9999\naudit: pid=7 syscall=1\n" ++
        "audit: pid=7 syscall=0\naudit: pid=7 syscall=1\n")) [7]).query.2 ∧
      search = ⟨Elimination.workingIn [["read"]], .ofList ["write", "futex", "read", "write"], 3⟩ ∧
      template = ⟨"web"⟩ ∧
      binary = ⟨"/bin/true", fun _ => .ok ["write", "read", "write", "exit", "read"]⟩ ∧
      (DiscoverySource.query log).1 = .ok (some (.allow ["write", "read"])) ∧
      (Rule.allow ["write", "read"]).IsProper ∧
      (DiscoverySource.query search).1 =
        .ok (some (.allow ["futex", "read", "close", "exit", "exit_group", "execve"])) ∧
      (Rule.allow ["futex", "read", "close", "exit", "exit_group", "execve"]).IsProper ∧
      (DiscoverySource.query template).1 = .ok (some (.allow Syscall.webTemplate)) ∧
      (Rule.allow Syscall.webTemplate).IsProper ∧
      (DiscoverySource.query binary).1 = .ok (some (.allow ["write", "read", "exit"])) ∧
      (Rule.allow ["write", "read", "exit"]).IsProper := by
  obtain ⟨hlogs, hsearches, -, hinOrder, -, htemplates, hbinaries⟩ := reported_rules_proper
  obtain ⟨log, hlog⟩ : ∃ log : AuditLog, log = (AuditLog.ofStream (.ofText
      ("audit: pid=7 syscall=9999\naudit: pid=7 syscall=1\n" ++
        "audit: pid=7 syscall=0\naudit: pid=7 syscall=1\n")) [7]).query.2 :=
    ⟨_, rfl⟩
  have hlogged : (DiscoverySource.query log).1 = .ok (some (.allow ["write", "read"])) := by
    subst hlog
    decide +kernel
  have hfound : (DiscoverySource.query (Search.mk (Elimination.workingIn [["read"]])
      (.ofList ["write", "futex", "read", "write"]) 3)).1 =
        .ok (some (.allow ["futex", "read", "close", "exit", "exit_group", "execve"])) := by
    decide +kernel
  have hmay := hinOrder ⟨Elimination.workingIn [["read"]],
    .ofList ["write", "futex", "read", "write"], 3⟩
  rw [hfound] at hmay
  have htemplate : (DiscoverySource.query (TemplateSource.mk "web")).1 =
      .ok (some (.allow Syscall.webTemplate)) := by
    decide +kernel
  have hbinary : (DiscoverySource.query (BinarySource.mk "/bin/true" fun _ =>
      .ok ["write", "read", "write", "exit", "read"])).1 =
        .ok (some (.allow ["write", "read", "exit"])) := by
    decide +kernel
  exact ⟨log, _, _, _, hlog, rfl, rfl, rfl, hlogged, (hlogs log _ hlogged).1, hfound,
    (hsearches _ 1 _ hmay).1, htemplate, (htemplates _ _ htemplate).1, hbinary,
    (hbinaries _ _ hbinary).1⟩

end SyscallPolicy
