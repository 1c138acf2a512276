import SyscallPolicy.Proofs.Synthesis.Canonical
import SyscallPolicy.Session

/-!
# Sessions of one synthesizer

A source may answer every query differently, so what a session replies
depends on how often the source was asked before.  A session asks it once for
each discovery and once for each synthesis, whatever the answer is, and
nothing but the two setters changes the settings.

* `Session.synthesizer_behind` says where a session is after any calls: so
  many queries further, with the settings that were set last;
* `isSynthesis_iff`: a profile is what `IsSynthesis` says of the settings and
  the answer, and there is only one such result.
-/

namespace SyscallPolicy

/-! ## Queries -/

namespace DiscoverySource

variable {σ : Type} [DiscoverySource σ]

/-- A source behind a number of queries. -/
def behind (source : σ) (queries : Nat) : σ :=
  (fun source => (query source).2)^[queries] source

/-- The answer to the query behind so many others. -/
def answerTo (source : σ) (queries : Nat) : Discovery :=
  (query (behind source queries)).1

theorem behind_add (source : σ) (first more : Nat) :
    behind source (first + more) = behind (behind source first) more := by
  rw [behind, behind, behind, Nat.add_comm, Function.iterate_add_apply]

end DiscoverySource

/-! ## Settings -/

namespace SessionCall

/-- Whether the call asks the source. -/
def asks : SessionCall → Bool
  | discover | synthesize => true
  | _ => false

/-- The targets that the call sets. -/
def targets? : SessionCall → Option (List String)
  | targets names => some names
  | _ => none

/-- What the call says about finding nothing. -/
def nilForNoCalls? : SessionCall → Option Bool
  | nilForNoCalls enabled => some enabled
  | _ => none

end SessionCall

open SessionCall

/-- The settings behind several calls: each as it was set last. -/
def SynthesisSettings.behind (settings : SynthesisSettings) (calls : List SessionCall) :
    SynthesisSettings where
  targets := (calls.filterMap targets?).getLast?.getD settings.targets
  nilForNoCalls := (calls.filterMap nilForNoCalls?).getLast?.getD settings.nilForNoCalls

namespace SynthesisSettings

variable (settings : SynthesisSettings) {calls : List SessionCall}

theorem behind_append (calls more : List SessionCall) :
    settings.behind (calls ++ more) = (settings.behind calls).behind more := by
  simp only [behind, List.filterMap_append, List.getLast?_append, Option.getD_or]

theorem behind_of_none
    (hcalls : ∀ call ∈ calls, call.targets? = none ∧ call.nilForNoCalls? = none) :
    settings.behind calls = settings := by
  have htargets : calls.filterMap targets? = [] :=
    List.filterMap_eq_nil_iff.mpr fun call hcall => (hcalls call hcall).1
  have hnil : calls.filterMap nilForNoCalls? = [] :=
    List.filterMap_eq_nil_iff.mpr fun call hcall => (hcalls call hcall).2
  rw [behind, htargets, hnil]
  rfl

end SynthesisSettings

/-! ## What is synthesized -/

/-- Whether an answer names no call: it is nothing, or a rule without names. -/
def NamesNothing (answer : Option Rule) : Prop :=
  ∀ rule, answer = some rule → rule.names = []

/-- What is synthesized from an answer of the source: a failure is passed on,
where no call is named there is no profile or one without rules, and else one
rule names the calls, each once and in the order of their bytes. -/
inductive IsSynthesis (settings : SynthesisSettings) :
    Discovery → Except Failure (Option Profile) → Prop
  | failed (failure : Failure) : IsSynthesis settings (.error failure) (.error failure)
  | absent {answer : Option Rule} (hnothing : NamesNothing answer)
      (hnil : settings.nilForNoCalls = true) : IsSynthesis settings (.ok answer) (.ok none)
  | bare {answer : Option Rule} (hnothing : NamesNothing answer)
      (hnil : settings.nilForNoCalls = false) :
      IsSynthesis settings (.ok answer)
        (.ok (some ⟨.errno, (settings.targets.filterMap Architecture.ofTarget?).flatten, []⟩))
  | named {rule : Rule} {names : List String} (hnames : rule.names ≠ [])
      (hordered : names.Pairwise fun name other => name.toUTF8.toList < other.toUTF8.toList)
      (hmem : ∀ name, name ∈ names ↔ name ∈ rule.names) :
      IsSynthesis settings (.ok (some rule))
        (.ok (some ⟨.errno, (settings.targets.filterMap Architecture.ofTarget?).flatten,
          [⟨names, rule.action⟩]⟩))

variable {settings : SynthesisSettings}

theorem Architecture.ofTargets_eq (targets : List String) :
    ofTargets targets = (targets.filterMap ofTarget?).flatten := by
  induction targets with
  | nil => rfl
  | cons target rest ih =>
    rw [ofTargets, List.flatMap_cons, ← ofTargets, ih]
    cases htarget : ofTarget? target with
    | none => rw [List.filterMap_cons_none htarget]; rfl
    | some architectures => rw [List.filterMap_cons_some htarget]; rfl

theorem synthesizedRules_of_namesNothing {answer : Option Rule} (hnothing : NamesNothing answer) :
    synthesizedRules answer = [] := by
  refine List.eq_nil_iff_forall_not_mem.mpr fun other hother => ?_
  obtain ⟨rule, hrule, hnames, -⟩ := mem_synthesizedRules_iff.mp hother
  exact hnames (hnothing rule hrule)

theorem synthesize_of_namesNothing {answer : Option Rule} (hnothing : NamesNothing answer) :
    synthesize settings answer = if settings.nilForNoCalls then none else
      some ⟨.errno, (settings.targets.filterMap Architecture.ofTarget?).flatten, []⟩ := by
  rw [synthesize_eq, synthesizedRules_of_namesNothing hnothing, Architecture.ofTargets_eq]
  simp only [true_and]

theorem synthesize_of_names {rule : Rule} (hnames : rule.names ≠ []) :
    synthesize settings (some rule) = some ⟨.errno,
      (settings.targets.filterMap Architecture.ofTarget?).flatten, [rule.canonical]⟩ := by
  have hrules : synthesizedRules (some rule) = [rule.canonical] := by
    rw [synthesizedRules, if_neg (by simpa using hnames)]
  rw [synthesize_eq, hrules, Architecture.ofTargets_eq]
  simp

theorem isSynthesis_iff {answer : Discovery} {result : Except Failure (Option Profile)} :
    IsSynthesis settings answer result ↔ result = answer.map (synthesize settings) := by
  constructor
  · intro hresult
    cases hresult with
    | failed failure => rfl
    | absent hnothing hnil => rw [Except.map, synthesize_of_namesNothing hnothing, if_pos hnil]
    | bare hnothing hnil =>
      rw [Except.map, synthesize_of_namesNothing hnothing, if_neg (by simp [hnil])]
    | @named rule names hnames hordered hmem =>
      -- Only one list in order has the names of the rule.
      have hcanonical : names = NameSet.ofList rule.names :=
        (isCanonical_iff_pairwise_toUTF8.mpr hordered).eq_of_mem_iff
          (NameSet.isCanonical_ofList rule.names) fun name => by rw [hmem, NameSet.mem_ofList]
      rw [Except.map, synthesize_of_names hnames, hcanonical]
      rfl
  · rintro rfl
    cases answer with
    | error failure => exact .failed failure
    | ok answer =>
      by_cases hnothing : NamesNothing answer
      · rw [Except.map, synthesize_of_namesNothing hnothing]
        cases hnil : settings.nilForNoCalls with
        | true => exact .absent hnothing hnil
        | false => exact .bare hnothing hnil
      · simp only [NamesNothing, not_forall] at hnothing
        obtain ⟨rule, rfl, hnames⟩ := hnothing
        rw [Except.map, synthesize_of_names hnames]
        exact .named hnames
          (isCanonical_iff_pairwise_toUTF8.mp (NameSet.isCanonical_ofList rule.names))
          fun name => NameSet.mem_ofList

/-! ## Runs -/

namespace Session

open DiscoverySource (answerTo)

variable {σ : Type} [DiscoverySource σ] {s : Session σ}

/-- A session behind several calls. -/
def behind (s : Session σ) (calls : List SessionCall) : Session σ :=
  calls.foldl (fun s call => (s.step call).2) s

theorem synthesizer_step (call : SessionCall) : (s.step call).2.synthesizer =
    ⟨DiscoverySource.behind s.synthesizer.source ([call].countP asks),
      s.synthesizer.settings.behind [call]⟩ := by
  cases call with
  | synthesize =>
    rw [step]
    split <;> next hprofile => exact (congrArg Prod.snd hprofile).symm
  | _ => rfl

theorem synthesizer_behind (s : Session σ) (calls : List SessionCall) :
    (s.behind calls).synthesizer =
      ⟨DiscoverySource.behind s.synthesizer.source (calls.countP asks),
        s.synthesizer.settings.behind calls⟩ := by
  induction calls generalizing s with
  | nil => rfl
  | cons call rest ih =>
    have hrest : s.behind (call :: rest) = (s.step call).2.behind rest := rfl
    rw [hrest, ih, synthesizer_step, ← DiscoverySource.behind_add, ← List.countP_append,
      ← SynthesisSettings.behind_append, List.singleton_append]

theorem replies_cons (s : Session σ) (call : SessionCall) (calls : List SessionCall) :
    s.replies (call :: calls) = (s.step call).1 :: (s.step call).2.replies calls :=
  rfl

theorem length_replies (s : Session σ) (calls : List SessionCall) :
    (s.replies calls).length = calls.length := by
  induction calls generalizing s with
  | nil => rfl
  | cons call rest ih => rw [replies_cons, List.length_cons, List.length_cons, ih]

theorem replies_append (s : Session σ) (calls more : List SessionCall) :
    s.replies (calls ++ more) = s.replies calls ++ (s.behind calls).replies more := by
  induction calls generalizing s with
  | nil => rfl
  | cons call rest ih =>
    rw [List.cons_append, replies_cons, replies_cons, ih]
    rfl

theorem getElem?_replies (s : Session σ) (before after : List SessionCall) (call : SessionCall) :
    (s.replies (before ++ call :: after))[before.length]? =
      some ((s.behind before).step call).1 := by
  rw [replies_append, List.getElem?_append_right (length_replies s before).le,
    length_replies, Nat.sub_self]
  rfl

theorem reply_synthesize (s : Session σ) : (s.step .synthesize).1 =
    .synthesized ((answerTo s.synthesizer.source 0).map (synthesize s.synthesizer.settings)) := by
  rw [step]
  split <;> next hprofile => exact congrArg (SessionReply.synthesized ∘ Prod.fst) hprofile.symm

/-- Any calls on a synthesizer of any source are replied to one by one.  Each
discovery and each synthesis among them asks the source once, no other call
does, and only the setters change the settings.  A synthesis replies with what
`IsSynthesis` says of the next answer of the source and the settings that were
set last before it, and that is one result. -/
theorem session_synthesizes (σ : Type) [DiscoverySource σ] (s : Session σ) :
    (∀ calls, (s.replies calls).length = calls.length) ∧
    (∀ calls, (s.behind calls).synthesizer =
      ⟨DiscoverySource.behind s.synthesizer.source (calls.countP asks),
        s.synthesizer.settings.behind calls⟩) ∧
    (∀ calls, (∀ call ∈ calls, call.targets? = none ∧ call.nilForNoCalls? = none) →
      (s.behind calls).synthesizer.settings = s.synthesizer.settings) ∧
    ∀ before after, ∃ result,
      (s.replies (before ++ .synthesize :: after))[before.length]? = some (.synthesized result) ∧
        ∀ other, IsSynthesis (s.synthesizer.settings.behind before)
          (answerTo s.synthesizer.source (before.countP asks)) other ↔ other = result := by
  refine ⟨s.length_replies, s.synthesizer_behind, fun calls hcalls => ?_, fun before after => ?_⟩
  · rw [synthesizer_behind]
    exact SynthesisSettings.behind_of_none _ hcalls
  · refine ⟨_, ?_, fun other => isSynthesis_iff⟩
    rw [getElem?_replies, reply_synthesize, synthesizer_behind]
    rfl

/-- A failure, then a rule that repeats a call, under targets that are set in
between and of which one is unknown; then nothing. -/
theorem session_of_three_syntheses :
    ∃ s : Session RecordedSource,
      s = ⟨⟨⟨[.error (.unknownTemplate "x"), .ok (some ⟨["write", "read", "write"], .log⟩)]⟩,
        ⟨["amd64"], false⟩⟩, none⟩ ∧
      (s.behind [.synthesize, .verify]).synthesizer.settings = ⟨["amd64"], false⟩ ∧
      (s.behind [.synthesize, .targets ["arm64", "mips", "arm64"], .synthesize,
        .nilForNoCalls true]).synthesizer = ⟨⟨[]⟩, ⟨["arm64", "mips", "arm64"], true⟩⟩ ∧
      (s.replies [.synthesize])[0]? = some (.synthesized (.error (.unknownTemplate "x"))) ∧
      (s.replies [.synthesize, .targets ["arm64", "mips", "arm64"], .synthesize])[2]? =
        some (.synthesized (.ok (some ⟨.errno, [.arm, .aarch64, .arm, .aarch64],
          [⟨["read", "write"], .log⟩]⟩))) ∧
      (s.replies [.synthesize, .targets ["arm64", "mips", "arm64"], .synthesize,
        .nilForNoCalls true, .synthesize])[4]? = some (.synthesized (.ok none)) := by
  obtain ⟨s, hs⟩ : ∃ s : Session RecordedSource, s = ⟨⟨⟨[.error (.unknownTemplate "x"),
      .ok (some ⟨["write", "read", "write"], .log⟩)]⟩, ⟨["amd64"], false⟩⟩, none⟩ :=
    ⟨_, rfl⟩
  obtain ⟨-, hbehind, hunset, hreplies⟩ := session_synthesizes RecordedSource s
  refine ⟨s, hs, ?unset, ?behind, ?failed, ?named, ?absent⟩
  case unset => exact (hunset _ (by decide)).trans (by rw [hs])
  case behind =>
    rw [hbehind, hs]
    rfl
  case failed =>
    obtain ⟨result, hreply, honly⟩ := hreplies [] []
    subst hs
    exact (honly _).mp (.failed _) ▸ hreply
  case named =>
    obtain ⟨result, hreply, honly⟩ :=
      hreplies [.synthesize, .targets ["arm64", "mips", "arm64"]] []
    subst hs
    have hordered : ["read", "write"].Pairwise fun name other =>
        name.toUTF8.toList < other.toUTF8.toList := by
      decide +kernel
    exact (honly _).mp (.named (by decide) hordered (by simp [or_comm])) ▸ hreply
  case absent =>
    obtain ⟨result, hreply, honly⟩ := hreplies [.synthesize,
      .targets ["arm64", "mips", "arm64"], .synthesize, .nilForNoCalls true] []
    subst hs
    exact (honly _).mp (.absent (by simp [NamesNothing]) rfl) ▸ hreply

end Session

end SyscallPolicy
