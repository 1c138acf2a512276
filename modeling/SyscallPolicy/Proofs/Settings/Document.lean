import SyscallPolicy.Proofs.Settings.Valid
import SyscallPolicy.Proofs.Toml.Complete
import SyscallPolicy.Proofs.Toml.Sections

/-!
# Documents that set settings

There are seven settings, and a document may set any of them (`Assignment`).  It has one plain
section for each group of settings that it names, and a key without points for each setting
in it; sections and keys come in any order, and other keys and sections stand between them
(`Assignment.IsSetBy`).  How it is written is up to the grammar of documents.

The settings of such a document are the defaults with exactly these values put in
(`ofToml?_of_isSetBy`), and the first rule that they break is named.
-/

namespace SyscallPolicy

open Toml (AreSections Document Pair Section namesBelow pairsOf)

/-- A setting that a document can name. -/
inductive SettingsKey where
  | logPath
  | targets
  | nilForNoCalls
  | parallel
  | candidates
  | timeoutSecs
  | unconstrained
  deriving DecidableEq, Repr

namespace SettingsKey

/-- The section that the setting stands in. -/
def group : SettingsKey → String
  | logPath => "log"
  | targets => "synthesis"
  | nilForNoCalls => "synthesis"
  | parallel => "brute_force"
  | candidates => "brute_force"
  | timeoutSecs => "runner"
  | unconstrained => "runner"

/-- The key of the setting in its section. -/
def name : SettingsKey → String
  | logPath => "path"
  | targets => "architectures"
  | nilForNoCalls => "nil_profile_for_no_calls"
  | parallel => "max_parallel_probes"
  | candidates => "candidates"
  | timeoutSecs => "timeout_secs"
  | unconstrained => "unconstrained_value"

/-- All settings. -/
def all : List SettingsKey :=
  [logPath, targets, nilForNoCalls, parallel, candidates, timeoutSecs, unconstrained]

/-- The sections that settings stand in. -/
def groups : List String :=
  ["log", "synthesis", "brute_force", "runner"]

theorem mem_all (key : SettingsKey) : key ∈ all := by
  cases key <;> decide

theorem group_mem_groups (key : SettingsKey) : key.group ∈ groups := by
  cases key <;> decide

theorem name_injective : Function.Injective name := by
  have hall : ∀ key ∈ all, ∀ other ∈ all, key.name = other.name → key = other := by decide
  exact fun key other => hall key key.mem_all other other.mem_all

end SettingsKey

/-- Values for some of the settings. -/
structure Assignment where
  logPath : Option String := none
  targets : Option (List String) := none
  nilForNoCalls : Option Bool := none
  parallel : Option ℕ := none
  candidates : Option (List String) := none
  timeoutSecs : Option ℕ := none
  unconstrained : Option String := none
  deriving DecidableEq, Repr

/-- An array of strings. -/
def Toml.ofStrings (names : List String) : Toml :=
  .array (names.map .string)

namespace Assignment

/-- The value of a setting, as it stands in a document. -/
def value? (a : Assignment) : SettingsKey → Option Toml
  | .logPath => a.logPath.map .string
  | .targets => a.targets.map .ofStrings
  | .nilForNoCalls => a.nilForNoCalls.map .boolean
  | .parallel => a.parallel.map fun (bound : ℕ) => .integer bound
  | .candidates => a.candidates.map .ofStrings
  | .timeoutSecs => a.timeoutSecs.map fun (secs : ℕ) => .integer secs
  | .unconstrained => a.unconstrained.map .string

/-- The default settings with exactly these values put in. -/
def settings (a : Assignment) : Settings where
  log := { path := a.logPath.getD "/var/log/syslog" }
  synthesis :=
    { targets := a.targets.getD ["amd64"], nilForNoCalls := a.nilForNoCalls.getD false }
  search := { parallel := a.parallel, candidates := a.candidates }
  runner :=
    { timeoutSecs := a.timeoutSecs.getD 60
      unconstrained := a.unconstrained.getD "unconfined" }

example : ({} : Assignment).settings = {} := rfl

/-- What is said about the first rule that the values break. -/
def complaint? (a : Assignment) : Option String :=
  if a.parallel = some 0 then some "max_parallel_probes must be >= 1"
  else if a.candidates = some [] then some "candidates must not be empty when set"
  else if a.timeoutSecs = some 0 then some "timeout_secs must be >= 1"
  else none

/-- Whether the pairs and sections of a document set exactly these values.  Each group of
settings has one plain section at most, a setting has a key without points, and no section
below a group is called like a setting in it. -/
structure IsSetBy (a : Assignment) (top : List Pair) (parts : List Section) : Prop where
  sections : AreSections SettingsKey.groups top parts
  plain : ∀ key : SettingsKey, ∀ pair ∈ pairsOf key.group parts,
    pair.first = key.name → pair.path = []
  name_notMem : ∀ key : SettingsKey, key.name ∉ namesBelow key.group parts
  mem_iff : ∀ (key : SettingsKey) (value : Toml),
    ⟨[], key.name, value⟩ ∈ pairsOf key.group parts ↔ a.value? key = some value

/-- Whether a text is a document that sets exactly these values. -/
def IsDocument (a : Assignment) (width depth : ℕ) (text : String) : Prop :=
  ∃ statements, Document width depth text.toList statements ∧
    a.IsSetBy (Toml.Reader.sections statements).1 (Toml.Reader.sections statements).2

variable {a : Assignment}

/-! ## What the fields of a document hold -/

/-- The table of the document has a table for each group, or nothing where none of its
settings is set, and this table has the values of the settings. -/
theorem IsSetBy.exists_lookup {top : List Pair} {parts : List Section}
    (hset : a.IsSetBy top parts) :
    ∃ values, Toml.tableOf? top parts = some (.table values) ∧
      ∀ name ∈ SettingsKey.groups, ∃ inner : List (String × Toml),
        (values.lookup name = some (.table inner) ∨ (values.lookup name = none ∧ inner = [])) ∧
        ∀ key : SettingsKey, key.group = name → inner.lookup key.name = a.value? key := by
  obtain ⟨values, hvalues, hgroups⟩ :=
    Toml.exists_tableOf?_sections (by decide : SettingsKey.groups.Nodup) hset.sections
  refine ⟨values, hvalues, fun name hname => ?_⟩
  obtain ⟨inner, hentry, hplain, habsent⟩ := hgroups name hname
  refine ⟨inner, hentry, ?_⟩
  rintro key rfl
  cases hvalue : a.value? key with
  | some value => exact hplain _ ((hset.mem_iff key value).mpr hvalue) rfl
  | none =>
    refine habsent key.name (hset.name_notMem key) fun pair hpair hfirst => ?_
    -- A pair that begins like the setting would set it.
    obtain ⟨path, last, value⟩ := pair
    obtain rfl : path = [] := hset.plain key _ hpair hfirst
    obtain rfl : last = key.name := hfirst
    rw [(hset.mem_iff key value).mp hpair] at hvalue
    cases hvalue

theorem strings?_ofStrings (names : List String) :
    Toml.strings? (.ofStrings names) = some names := by
  rw [Toml.ofStrings, Toml.strings?]
  induction names with
  | nil => rfl
  | cons name rest ih => simp [Toml.string?, ih]

theorem natural?_integer (value : ℕ) : Toml.natural? (.integer value) = some value := by
  simp [Toml.natural?]

/-- A group that is missing reads like one without settings. -/
theorem fieldOr_group {α : Type} {read? : Toml → Option α} {missing found : α}
    {entry : Option Toml} {inner : List (String × Toml)}
    (hentry : entry = some (.table inner) ∨ (entry = none ∧ inner = []))
    (hempty : read? (.table []) = some missing) (hread : read? (.table inner) = some found) :
    fieldOr read? missing entry = some found := by
  rcases hentry with rfl | ⟨rfl, rfl⟩
  · exact hread
  · exact hempty.symm.trans hread

section Groups

variable {inner : List (String × Toml)}

theorem log_ofToml? (hpath : inner.lookup "path" = a.value? .logPath) :
    LogSettings.ofToml? (.table inner) = some a.settings.log := by
  have hread : fieldOr Toml.string? "/var/log/syslog" (a.value? .logPath) =
      some (a.logPath.getD "/var/log/syslog") := by
    rw [value?]
    cases a.logPath <;> rfl
  simp only [LogSettings.ofToml?, Toml.fields?, List.map_cons, List.map_nil, hpath,
    Option.bind_eq_bind, Option.bind_some, hread]
  rfl

theorem synthesis_ofToml? (htargets : inner.lookup "architectures" = a.value? .targets)
    (hnil : inner.lookup "nil_profile_for_no_calls" = a.value? .nilForNoCalls) :
    SynthesisSettings.ofToml? (.table inner) = some a.settings.synthesis := by
  have hread : fieldOr Toml.strings? ["amd64"] (a.value? .targets) =
      some (a.targets.getD ["amd64"]) := by
    rw [value?]
    cases a.targets with
    | none => rfl
    | some names => exact strings?_ofStrings names
  have hreadNil : fieldOr Toml.boolean? false (a.value? .nilForNoCalls) =
      some (a.nilForNoCalls.getD false) := by
    rw [value?]
    cases a.nilForNoCalls <;> rfl
  simp only [SynthesisSettings.ofToml?, Toml.fields?, List.map_cons, List.map_nil, htargets, hnil,
    Option.bind_eq_bind, Option.bind_some, hread, hreadNil]
  rfl

theorem search_ofToml? (hparallel : inner.lookup "max_parallel_probes" = a.value? .parallel)
    (hcandidates : inner.lookup "candidates" = a.value? .candidates) :
    SearchSettings.ofToml? (.table inner) = some a.settings.search := by
  have hread : fieldOr (fun value => (Toml.natural? value).map some) none (a.value? .parallel) =
      some a.parallel := by
    rw [value?]
    cases a.parallel with
    | none => rfl
    | some bound => exact congrArg (Option.map some) (natural?_integer bound)
  have hreadNames : fieldOr (fun value => (Toml.strings? value).map some) none
      (a.value? .candidates) = some a.candidates := by
    rw [value?]
    cases a.candidates with
    | none => rfl
    | some names => exact congrArg (Option.map some) (strings?_ofStrings names)
  simp only [SearchSettings.ofToml?, Toml.fields?, List.map_cons, List.map_nil, hparallel,
    hcandidates, Option.bind_eq_bind, Option.bind_some, hread, hreadNames]
  rfl

theorem runner_ofToml? (htimeout : inner.lookup "timeout_secs" = a.value? .timeoutSecs)
    (hvalue : inner.lookup "unconstrained_value" = a.value? .unconstrained) :
    RunnerSettings.ofToml? (.table inner) = some a.settings.runner := by
  have hread : fieldOr Toml.natural? 60 (a.value? .timeoutSecs) =
      some (a.timeoutSecs.getD 60) := by
    rw [value?]
    cases a.timeoutSecs with
    | none => rfl
    | some secs => exact natural?_integer secs
  have hreadValue : fieldOr Toml.string? "unconfined" (a.value? .unconstrained) =
      some (a.unconstrained.getD "unconfined") := by
    rw [value?]
    cases a.unconstrained <;> rfl
  simp only [RunnerSettings.ofToml?, Toml.fields?, List.map_cons, List.map_nil, htimeout, hvalue,
    Option.bind_eq_bind, Option.bind_some, hread, hreadValue]
  rfl

end Groups

/-- The settings of a document are the defaults with the values that it sets put in. -/
theorem ofToml?_of_isSetBy {top : List Pair} {parts : List Section} (hset : a.IsSetBy top parts) :
    (Toml.tableOf? top parts).bind Settings.ofToml? = some a.settings := by
  obtain ⟨values, hvalues, hgroups⟩ := hset.exists_lookup
  obtain ⟨log, hlogEntry, hlog⟩ := hgroups "log" (by decide)
  obtain ⟨synthesis, hsynthesisEntry, hsynthesis⟩ := hgroups "synthesis" (by decide)
  obtain ⟨search, hsearchEntry, hsearch⟩ := hgroups "brute_force" (by decide)
  obtain ⟨runner, hrunnerEntry, hrunner⟩ := hgroups "runner" (by decide)
  have hreadLog := fieldOr_group hlogEntry (by rfl : _ = some {}) (log_ofToml? (hlog .logPath rfl))
  have hreadSynthesis := fieldOr_group hsynthesisEntry (by rfl : _ = some {})
    (synthesis_ofToml? (hsynthesis .targets rfl) (hsynthesis .nilForNoCalls rfl))
  have hreadSearch := fieldOr_group hsearchEntry (by rfl : _ = some {})
    (search_ofToml? (hsearch .parallel rfl) (hsearch .candidates rfl))
  have hreadRunner := fieldOr_group hrunnerEntry (by rfl : _ = some {})
    (runner_ofToml? (hrunner .timeoutSecs rfl) (hrunner .unconstrained rfl))
  rw [hvalues, Option.bind_some, Settings.ofToml?, Toml.fields?]
  simp only [List.map_cons, List.map_nil, Option.bind_eq_bind, Option.bind_some, hreadLog,
    hreadSynthesis, hreadSearch, hreadRunner]
  rfl

/-- A document is read as the settings that it sets, or the first rule that they break is
named. -/
theorem ofText_of_isDocument {text : String}
    (hdocument : a.IsDocument Toml.Reader.maxDepth Toml.Reader.maxDepth text) :
    Settings.ofText text = match a.settings.validate with
      | .error rule => .error (.broken rule)
      | .ok () => .ok a.settings := by
  obtain ⟨statements, hstatements, hset⟩ := hdocument
  have hread : (Toml.read? text.toList).bind Settings.ofToml? = some a.settings := by
    rw [Toml.read?, Toml.statements_of_document hstatements]
    exact ofToml?_of_isSetBy hset
  cases hvalidate : a.settings.validate with
  | error rule => simp [Settings.ofText, hread, hvalidate]
  | ok => simp [Settings.ofText, hread, hvalidate]

end Assignment

end SyscallPolicy
