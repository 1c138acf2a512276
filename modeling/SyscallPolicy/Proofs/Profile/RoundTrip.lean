import SyscallPolicy.Profile.Document
import SyscallPolicy.Proofs.Json.Complete
import SyscallPolicy.Proofs.Json.Written

/-!
# Reading back what was written

A profile that is written in either layout is read back as the same
profile, but for one thing: an identifier of a known architecture that was
kept as any other identifier comes back as that architecture.  Such an
architecture is called disguised here.

The proof goes by the parts of a document:

* `Architecture.recognized` says what the reader makes of an architecture,
  and `Architecture.recognized_eq_self_iff` when that is the architecture
  itself;
* each part of a profile is read from its own value (`Action.ofJson?_toJson`,
  `Architecture.ofJson?_toJson`, `Rule.ofJson?_toJson`,
  `Profile.ofJson?_toJson`);
* each part has a written value (`Profile.isWritten_toJson`), so that the
  reader finds the value of the profile in its text;
* nothing that is read holds a disguised architecture
  (`Profile.not_isDisguised_of_ofText?`).
-/

namespace SyscallPolicy

open Json (IsWritten Layout member?)

/-! ## Architectures that are disguised -/

namespace Architecture

/-- Whether an architecture with a name of its own is kept as another
identifier. -/
def IsDisguised (architecture : Architecture) : Prop :=
  ∃ k ∈ known, architecture = other k.wire

/-- The architecture with every disguise taken off. -/
def recognized : Architecture → Architecture
  | other identifier => ofWire identifier
  | architecture => architecture

theorem known?_wire : ∀ k ∈ known, known? k.wire = some k := by
  decide

theorem known?_eq_some_iff {identifier : String} {k : Architecture} :
    known? identifier = some k ↔ k ∈ known ∧ k.wire = identifier := by
  refine ⟨fun hfound => ?_, ?_⟩
  · rw [known?] at hfound
    have hwire := List.find?_some hfound
    exact ⟨List.mem_of_find?_eq_some hfound, eq_of_beq hwire⟩
  · rintro ⟨hknown, rfl⟩
    exact known?_wire k hknown

theorem known?_eq_none_iff {identifier : String} :
    known? identifier = none ↔ ∀ k ∈ known, k.wire ≠ identifier := by
  simp [known?]

theorem not_isDisguised_of_mem_known {k : Architecture} (hknown : k ∈ known) :
    ¬ k.IsDisguised := by
  rintro ⟨_, _, rfl⟩
  simp [known] at hknown

/-- The reader of identifiers leaves no disguise. -/
theorem not_isDisguised_ofWire (identifier : String) : ¬ (ofWire identifier).IsDisguised := by
  cases hfound : known? identifier with
  | some k =>
    rw [ofWire, hfound]
    exact not_isDisguised_of_mem_known (known?_eq_some_iff.mp hfound).1
  | none =>
    rw [ofWire, hfound]
    rintro ⟨k, hknown, heq⟩
    exact known?_eq_none_iff.mp hfound k hknown (other.inj heq).symm

theorem mem_known_of_not_isOther {architecture : Architecture}
    (hother : architecture.isOther = false) : architecture ∈ known := by
  cases architecture <;> first | decide | cases hother

theorem recognized_other_wire {k : Architecture} (hknown : k ∈ known) :
    (other k.wire).recognized = k := by
  simp [recognized, ofWire, known?_wire k hknown]

theorem ofWire_wire (architecture : Architecture) :
    ofWire architecture.wire = architecture.recognized := by
  cases architecture with
  | other identifier => rfl
  | _ => exact recognized_other_wire (mem_known_of_not_isOther rfl)

theorem recognized_eq_self_iff {architecture : Architecture} :
    architecture.recognized = architecture ↔ ¬ architecture.IsDisguised := by
  refine ⟨fun heq => ?_, fun hplain => ?_⟩
  · rw [← heq, ← ofWire_wire]
    exact not_isDisguised_ofWire _
  · cases architecture with
    | other identifier =>
      have hnone : known? identifier = none :=
        known?_eq_none_iff.mpr fun k hknown hwire => hplain ⟨k, hknown, hwire ▸ rfl⟩
      rw [recognized, ofWire, hnone]
      rfl
    | _ => rfl

end Architecture

/-! ## Reading the parts of a document -/

namespace Json

@[simp]
theorem textOf?_symbolsOf (s : String) : textOf? (symbolsOf s.toList) = some s := by
  simp [textOf?]

@[simp]
theorem named?_nil : named? [] = some [] := rfl

@[simp]
theorem named?_cons_member (key : String) (value : Json)
    (members : List (List Symbol × Json)) :
    named? (member key value :: members) = (named? members).map ((key, value) :: ·) := by
  simp only [named?, member, List.mapM_cons, textOf?_symbolsOf]
  exact Option.map_eq_bind.symm

/-- A list is read item by item. -/
theorem listOf?_map {α β : Type} {item? : Json → Option β} {toJson : α → Json} {read : α → β}
    (hitem : ∀ x, item? (toJson x) = some (read x)) (xs : List α) :
    listOf? item? (.array (xs.map toJson)) = some (xs.map read) := by
  have hread : item? ∘ toJson = fun x => pure (read x) := funext hitem
  simp only [listOf?, array?, Option.bind_eq_bind, Option.bind_some, List.mapM_map, hread]
  exact List.mapM_pure

/-- Every member of a list that was read comes from an item of the array. -/
theorem exists_item_of_listOf? {α : Type} {item? : Json → Option α} {value : Json} {xs : List α}
    (hread : listOf? item? value = some xs) {x : α} (hx : x ∈ xs) :
    ∃ item, item? item = some x := by
  obtain ⟨items, -, hitems⟩ := Option.bind_eq_some_iff.mp hread
  clear hread
  induction items generalizing xs with
  | nil =>
    obtain rfl : [] = xs := by simpa using hitems
    cases hx
  | cons item items ih =>
    simp only [List.mapM_cons, Option.bind_eq_bind, Option.bind_eq_some_iff, Option.pure_def,
      Option.some.injEq] at hitems
    obtain ⟨first, hfirst, others, hothers, rfl⟩ := hitems
    rcases List.mem_cons.mp hx with rfl | hx
    · exact ⟨item, hfirst⟩
    · exact ih hx hothers

end Json

theorem Action.ofJson?_toJson (action : Action) : ofJson? action.toJson = some action := by
  cases action <;> rfl

theorem Architecture.ofJson?_toJson (architecture : Architecture) :
    ofJson? architecture.toJson = some architecture.recognized := by
  simp [ofJson?, toJson, ofWire_wire]

theorem Architecture.not_isDisguised_of_ofJson? {value : Json} {architecture : Architecture}
    (hread : ofJson? value = some architecture) : ¬ architecture.IsDisguised := by
  unfold ofJson? at hread
  split at hread
  · obtain rfl := Option.some.inj hread
    exact not_isDisguised_ofWire _
  · obtain ⟨identifier, -, hfound⟩ := Option.bind_eq_some_iff.mp hread
    exact not_isDisguised_of_mem_known (known?_eq_some_iff.mp hfound).1

theorem Rule.ofJson?_toJson (rule : Rule) : ofJson? rule.toJson = some rule := by
  have hnames := Json.listOf?_map Json.string?_ofString rule.names
  simp [ofJson?, toJson, member?, ofParts?, hnames, Action.ofJson?_toJson]

namespace Profile

/-- The profile that the reader makes of a written profile. -/
def recognized (p : Profile) : Profile :=
  { p with architectures := p.architectures.map Architecture.recognized }

theorem recognized_eq_self_iff {p : Profile} :
    p.recognized = p ↔ ∀ architecture ∈ p.architectures, ¬ architecture.IsDisguised := by
  have hparts : p.recognized = p ↔
      p.architectures.map Architecture.recognized = p.architectures.map id := by
    cases p
    simp [recognized]
  simp only [hparts, List.map_inj_left, id, Architecture.recognized_eq_self_iff]

/-- What a part stands for, also when it is absent. -/
def partOr {α : Type} (missing : α) (read? : Json → Option α) : Option Json → Option α
  | some value => read? value
  | none => some missing

theorem ofParts?_eq (action architectures rules : Option Json) :
    ofParts? action architectures rules =
      (partOr default Action.ofJson? action).bind fun action =>
        (partOr [] (Json.listOf? Architecture.ofJson?) architectures).bind fun architectures =>
          (partOr [] (Json.listOf? Rule.ofJson?) rules).bind fun rules =>
            some ⟨action, architectures, rules⟩ := by
  cases action <;> cases architectures <;> cases rules <;> rfl

/-- A profile is read part by part. -/
theorem ofParts?_eq_some_iff {action architectures rules : Option Json} {p : Profile} :
    ofParts? action architectures rules = some p ↔
      partOr default Action.ofJson? action = some p.defaultAction ∧
        partOr [] (Json.listOf? Architecture.ofJson?) architectures = some p.architectures ∧
        partOr [] (Json.listOf? Rule.ofJson?) rules = some p.rules := by
  rw [ofParts?_eq]
  refine ⟨fun hread => ?_, ?_⟩
  · obtain ⟨_, haction, hread⟩ := Option.bind_eq_some_iff.mp hread
    obtain ⟨_, harchitectures, hread⟩ := Option.bind_eq_some_iff.mp hread
    obtain ⟨_, hrules, hread⟩ := Option.bind_eq_some_iff.mp hread
    obtain rfl := Option.some.inj hread
    exact ⟨haction, harchitectures, hrules⟩
  · rintro ⟨haction, harchitectures, hrules⟩
    simp only [haction, harchitectures, hrules, Option.bind_some]

/-! ## Nothing that is read is disguised -/

theorem not_isDisguised_of_ofParts? {action architectures rules : Option Json} {p : Profile}
    (hread : ofParts? action architectures rules = some p) :
    ∀ architecture ∈ p.architectures, ¬ architecture.IsDisguised := by
  obtain ⟨-, harchitectures, -⟩ := ofParts?_eq_some_iff.mp hread
  intro architecture hmem
  cases architectures with
  | none =>
    rw [← Option.some.inj harchitectures] at hmem
    cases hmem
  | some value =>
    obtain ⟨item, hitem⟩ := Json.exists_item_of_listOf? harchitectures hmem
    exact Architecture.not_isDisguised_of_ofJson? hitem

theorem not_isDisguised_of_ofJson? {value : Json} {p : Profile} (hread : ofJson? value = some p) :
    ∀ architecture ∈ p.architectures, ¬ architecture.IsDisguised := by
  unfold ofJson? at hread
  split at hread
  · exact not_isDisguised_of_ofParts? hread
  · exact not_isDisguised_of_ofParts? hread
  · exact not_isDisguised_of_ofParts? hread
  · exact not_isDisguised_of_ofParts? hread
  · simp only [Option.bind_eq_bind, Option.bind_eq_some_iff] at hread
    obtain ⟨_, -, _, -, _, -, _, -, hread⟩ := hread
    exact not_isDisguised_of_ofParts? hread
  · cases hread

theorem not_isDisguised_of_ofText? {text : String} {p : Profile} (hread : ofText? text = some p) :
    ∀ architecture ∈ p.architectures, ¬ architecture.IsDisguised := by
  obtain ⟨value, -, hvalue⟩ := Option.bind_eq_some_iff.mp hread
  exact not_isDisguised_of_ofJson? hvalue

/-! ## Written profiles -/

/-- What stands for a list, which is left out when it is empty. -/
def listPart : List Json → Option Json
  | [] => none
  | items => some (.array items)

/-- The reader finds the parts of a written profile by their names. -/
theorem named?_parts (action : Json) (architectures rules : List Json) :
    ∃ named, Json.named? (Json.member "defaultAction" action ::
        (listMember "architectures" architectures ++ listMember "syscalls" rules)) = some named ∧
      member? named "defaultAction" = some (some action) ∧
      member? named "architectures" = some (listPart architectures) ∧
      member? named "syscalls" = some (listPart rules) := by
  cases architectures <;> cases rules <;> simp [listMember, listPart, member?]

/-- A list is read from its part also when it was left out. -/
theorem partOr_listPart {α β : Type} {item? : Json → Option β} {toJson : α → Json}
    {read : α → β} (hitem : ∀ x, item? (toJson x) = some (read x)) (xs : List α) :
    partOr [] (Json.listOf? item?) (listPart (xs.map toJson)) = some (xs.map read) := by
  cases xs with
  | nil => rfl
  | cons x xs => exact Json.listOf?_map hitem (x :: xs)

theorem ofJson?_toJson (p : Profile) : ofJson? p.toJson = some p.recognized := by
  obtain ⟨named, hnamed, haction, harchitectures, hrules⟩ := named?_parts p.defaultAction.toJson
    (p.architectures.map Architecture.toJson) (p.rules.map Rule.toJson)
  have hparts : ofParts? (some p.defaultAction.toJson)
      (listPart (p.architectures.map Architecture.toJson))
      (listPart (p.rules.map Rule.toJson)) = some p.recognized := by
    refine ofParts?_eq_some_iff.mpr ⟨Action.ofJson?_toJson _, ?_, ?_⟩
    · exact partOr_listPart Architecture.ofJson?_toJson p.architectures
    · simpa [recognized] using partOr_listPart Rule.ofJson?_toJson p.rules
  simp only [ofJson?, toJson, hnamed, haction, harchitectures, hrules, hparts,
    Option.bind_eq_bind, Option.bind_some]

variable {layout : Layout}

theorem isWritten_member {key : String} {value : Json} (hvalue : IsWritten layout value) :
    (∃ s, (Json.member key value).1 = Json.symbolsOf s) ∧
      IsWritten layout (Json.member key value).2 :=
  ⟨⟨key.toList, rfl⟩, hvalue⟩

theorem isWritten_rule (hblank : layout.IsBlank) (rule : Rule) : IsWritten layout rule.toJson := by
  have hnames : IsWritten layout (.array (rule.names.map .ofString)) :=
    Json.isWritten_array hblank (List.forall_mem_map.mpr fun name _ => Json.isWritten_ofString name)
  refine Json.isWritten_object hblank (List.forall_mem_cons.mpr ⟨isWritten_member hnames, ?_⟩)
  exact List.forall_mem_singleton.mpr (isWritten_member (Json.isWritten_ofString _))

theorem isWritten_listMember (hblank : layout.IsBlank) (key : String) {items : List Json}
    (hitems : ∀ item ∈ items, IsWritten layout item) :
    ∀ member ∈ listMember key items,
      (∃ s, member.1 = Json.symbolsOf s) ∧ IsWritten layout member.2 := by
  cases items with
  | nil => exact List.forall_mem_nil _
  | cons item items =>
    exact List.forall_mem_singleton.mpr (isWritten_member (Json.isWritten_array hblank hitems))

theorem isWritten_toJson (hblank : layout.IsBlank) (p : Profile) : IsWritten layout p.toJson := by
  have harchitectures := isWritten_listMember hblank "architectures"
    (List.forall_mem_map.mpr fun (architecture : Architecture)
      (_ : architecture ∈ p.architectures) => Json.isWritten_ofString architecture.wire)
  have hrules := isWritten_listMember hblank "syscalls"
    (List.forall_mem_map.mpr fun rule (_ : rule ∈ p.rules) => isWritten_rule hblank rule)
  refine Json.isWritten_object hblank (List.forall_mem_cons.mpr ⟨?_, ?_⟩)
  · exact isWritten_member (Json.isWritten_ofString _)
  · exact List.forall_mem_append.mpr ⟨harchitectures, hrules⟩

theorem document_write (hblank : layout.IsBlank) (p : Profile) :
    Json.Document (p.write layout).toList p.toJson :=
  Json.document_write (isWritten_toJson hblank p)

theorem ofText?_write (hblank : layout.IsBlank) (p : Profile) :
    ofText? (p.write layout) = some p.recognized := by
  rw [ofText?, Json.read?_of_document (document_write hblank p)]
  exact ofJson?_toJson p

theorem ofText?_write_eq_iff (hblank : layout.IsBlank) (p : Profile) :
    ofText? (p.write layout) = some p ↔
      ∀ architecture ∈ p.architectures, ¬ architecture.IsDisguised := by
  rw [ofText?_write hblank, Option.some.injEq, recognized_eq_self_iff]

/-- The texts of a profile have nothing but blanks between their tokens. -/
theorem exists_layout_of_mem_texts {p : Profile} {text : String}
    (htext : text ∈ [p.compactText, p.prettyText]) :
    ∃ layout : Layout, layout.IsBlank ∧ text = p.write layout := by
  have htext : text = p.write .compact ∨ text = p.write .indented := by
    simpa [compactText, prettyText] using htext
  rcases htext with rfl | rfl
  · exact ⟨.compact, Layout.isBlank_compact, rfl⟩
  · exact ⟨.indented, Layout.isBlank_indented, rfl⟩

/-- Both texts of a profile are JSON documents of it, and reading them takes
off the disguises and changes nothing else.  So they give back the very
profile exactly if it has no disguise, which is so for all that is read. -/
theorem written_profile_read_back :
    (∀ p : Profile, ∀ text ∈ [p.compactText, p.prettyText],
      Json.Document text.toList p.toJson ∧ ofText? text = some p.recognized ∧
        (ofText? text = some p ↔
          ∀ architecture ∈ p.architectures, ¬ architecture.IsDisguised)) ∧
    ∀ (text : String) (p : Profile), ofText? text = some p →
      (∀ architecture ∈ p.architectures, ¬ architecture.IsDisguised) ∧
        ofText? p.compactText = some p ∧ ofText? p.prettyText = some p := by
  have hcompact := Layout.isBlank_compact
  have hindented := Layout.isBlank_indented
  refine ⟨fun p text htext => ?_, fun text p hread => ?_⟩
  · have htext : text = p.write .compact ∨ text = p.write .indented := by
      simpa [compactText, prettyText] using htext
    rcases htext with rfl | rfl
    · exact ⟨document_write hcompact p, ofText?_write hcompact p, ofText?_write_eq_iff hcompact p⟩
    · exact ⟨document_write hindented p, ofText?_write hindented p,
        ofText?_write_eq_iff hindented p⟩
  · have hplain := not_isDisguised_of_ofText? hread
    exact ⟨hplain, (ofText?_write_eq_iff hcompact p).mpr hplain,
      (ofText?_write_eq_iff hindented p).mpr hplain⟩

/-- A profile for `x86` is read from a text that spells the architecture as an
object, and is written as a text that gives it back. -/
theorem x86_read_back :
    ofText? (Profile.mk .errno [.x86] []).compactText = some ⟨.errno, [.x86], []⟩ :=
  (written_profile_read_back.2 "\x7b\"architectures\":[\x7b\"SCMP_ARCH_X86\":null\x7d]\x7d" _
    (by decide +kernel)).2.1

end Profile

end SyscallPolicy
