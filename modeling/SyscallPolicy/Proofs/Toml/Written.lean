import SyscallPolicy.Proofs.Toml.Complete
import SyscallPolicy.Toml.Writer

/-!
# What is written is a document

The writer gives each value one of its spellings (`spells_render`) and sections a document
that has them (`document_renderDocument`).  A value can be written when its integers are of
64 bits, its tables name no key twice, and it nests no deeper than the document may.  If no
section and no key is written twice either, the document is read back as what was written
(`read?_renderDocument`).
-/

namespace SyscallPolicy.Toml

open Reader (Statement)
open Scalar (integerBound ofDigits)

variable {width depth : ℕ} {text rest content : List Char}

/-! ## Strings -/

theorem scalar?_control (value : Fin 128) :
    Lexeme.scalar? ['0', '0', hexDigit (value / 16), hexDigit (value % 16)] =
      some (Char.ofNat value) := by
  revert value
  decide +kernel

/-- A character stands in a basic string as it is, or escaped. -/
theorem spellsBasic_escapeChar (c : Char) (hrest : SpellsBasic text content) :
    SpellsBasic (escapeChar c ++ text) (c :: content) := by
  unfold escapeChar
  split_ifs with hquote hslash hcontrol
  · subst hquote
    exact .escape (.short rfl) hrest
  · subst hslash
    exact .escape (.short rfl) hrest
  · have hlt : c.toNat < 128 := by
      rcases hcontrol with hlow | rfl
      · have hlow : c.toNat < ' '.toNat := hlow
        exact Nat.lt_trans hlow (by decide)
      · decide
    have hnumbered : Lexeme.scalar? ['0', '0', hexDigit (c.toNat / 16), hexDigit (c.toNat % 16)] =
        some c := by
      rw [scalar?_control ⟨c.toNat, hlt⟩, Char.ofNat_toNat]
    exact .escape (.four rfl hnumbered) hrest
  · obtain ⟨hlow, hdelete⟩ := not_or.mp hcontrol
    refine .plain ?_ hquote hslash hrest
    simp [Lexeme.isText, Char.not_lt.mp hlow, hdelete]

theorem spellsBasic_escaped (content : List Char) :
    SpellsBasic (content.flatMap escapeChar) content := by
  induction content with
  | nil => exact .nil
  | cons c rest ih => exact spellsBasic_escapeChar c ih

theorem spells_quoted (s : String) : Spells width depth (quoted s) (.string s) := by
  have hspells : Spells width depth (quoted s) (.string (String.ofList s.toList)) :=
    .string (.basic (spellsBasic_escaped s.toList))
  rwa [String.ofList_toList] at hspells

theorem spellsKey_quoted (name : String) {after : List Char} (hafter : IsBlanks after) :
    SpellsKey (quoted name ++ after) [name] := by
  have hpart := SpellsPart.basic (spellsBasic_escaped name.toList)
  rw [String.ofList_toList] at hpart
  exact .last hpart hafter

/-! ## Numbers -/

theorem digitValue_of_isDigit {c : Char} (hc : c.isDigit = true) :
    Scalar.digitValue c = c.toNat - '0'.toNat := by
  rw [Scalar.digitValue, if_pos hc]
  rfl

theorem ofDigits_eq_ofDigitChars {digits : List Char} (hdigits : ∀ c ∈ digits, c.isDigit = true)
    (value : ℕ) : digits.foldl (fun value c => value * 10 + Scalar.digitValue c) value =
      Nat.ofDigitChars 10 digits value := by
  induction digits generalizing value with
  | nil => rfl
  | cons c digits ih =>
    rw [List.forall_mem_cons] at hdigits
    rw [List.foldl_cons, ih hdigits.2, Nat.ofDigitChars_cons, digitValue_of_isDigit hdigits.1,
      Nat.mul_comm]

theorem isDigit_of_mem_toDigits {value : ℕ} {c : Char} (hc : c ∈ Nat.toDigits 10 value) :
    c.isDigit = true :=
  Nat.isDigit_of_mem_toDigits (by decide) (by decide) hc

theorem ofDigits_toDigits (value : ℕ) : ofDigits 10 (Nat.toDigits 10 value) = value := by
  rw [ofDigits, ofDigits_eq_ofDigitChars (fun _ => isDigit_of_mem_toDigits),
    Nat.ofDigitChars_ten_toDigits]

theorem spellsDigits_of_isDigit (hne : text ≠ []) (hdigits : ∀ c ∈ text, c.isDigit = true) :
    SpellsDigits Char.isDigit text text := by
  induction text with
  | nil => exact absurd rfl hne
  | cons c rest ih =>
    rw [List.forall_mem_cons] at hdigits
    cases rest with
    | nil => exact .last hdigits.1
    | cons d rest => exact .next hdigits.1 (ih (List.cons_ne_nil d rest) hdigits.2)

/-- No zero stands in front of a number other than zero. -/
theorem head?_toDigits_ne {value : ℕ} (hvalue : value ≠ 0) :
    (Nat.toDigits 10 value).head? ≠ some '0' := by
  induction value using Nat.strongRec with
  | ind value ih =>
    by_cases hsmall : value < 10
    · have hdigit : ∀ n < 10, n ≠ 0 → Nat.digitChar n ≠ '0' := by decide
      rw [Nat.toDigits_of_lt_base hsmall]
      simpa using hdigit value hsmall hvalue
    · have hhead := ih (value / 10) (by omega) (by omega)
      obtain ⟨c, others, hdigits⟩ := List.exists_cons_of_ne_nil
        (Nat.toDigits_ne_nil : Nat.toDigits 10 (value / 10) ≠ [])
      rw [hdigits] at hhead
      rwa [Nat.toDigits_of_base_le (by decide) (by omega), hdigits]

theorem spellsWhole_toDigits (value : ℕ) :
    SpellsWhole (Nat.toDigits 10 value) (Nat.toDigits 10 value) := by
  by_cases hvalue : value = 0
  · rw [hvalue]
    exact .zero
  · exact .digits
      (spellsDigits_of_isDigit Nat.toDigits_ne_nil fun _ => isDigit_of_mem_toDigits)
      (head?_toDigits_ne hvalue)

theorem spellsInteger_toString (value : ℤ) : SpellsInteger (toString value).toList value := by
  cases value with
  | ofNat value =>
    have htext : (toString (Int.ofNat value)).toList = [] ++ Nat.toDigits 10 value :=
      Nat.toList_repr
    have hspells := SpellsInteger.decimal .none (spellsWhole_toDigits value)
    rw [ofDigits_toDigits] at hspells
    rw [htext]
    exact hspells
  | negSucc value =>
    have htext : (toString (Int.negSucc value)).toList = ['-'] ++ Nat.toDigits 10 (value + 1) := by
      show ("-" ++ (value + 1).repr).toList = _
      rw [String.toList_append, Nat.toList_repr]
      rfl
    have hspells := SpellsInteger.decimal .minus (spellsWhole_toDigits (value + 1))
    rw [ofDigits_toDigits] at hspells
    rw [htext]
    exact hspells

theorem spellsFloat_zero : SpellsFloat ['0', '.', '0'] := by
  have hdigits : SpellsDigits Char.isDigit ['0'] ['0'] := .last rfl
  have hfits : IsBinary64 (['0'] ++ ['0']) (0 - (['0'] : List Char).length) := by
    exact overflows_eq_false_iff.mp rfl
  exact .decimal .none .zero (.some hdigits) .none (.inl (by simp)) (.inr hfits)

theorem spellsMoment_midnight : SpellsMoment ['0', '0', ':', '0', '0', ':', '0', '0'] :=
  .time (.time (by decide : 0 ≤ 23) (by decide : 0 ≤ 59) (by decide : 0 ≤ 60) (.inl rfl))

/-! ## Values -/

/-- Whether a value can be written so that it nests to this depth at most. -/
inductive IsWritable : ℕ → Toml → Prop
  | string {depth : ℕ} (value : String) : IsWritable depth (.string value)
  | integer {depth : ℕ} {value : ℤ} (le_value : -integerBound ≤ value)
      (value_lt : value < integerBound) : IsWritable depth (.integer value)
  | float {depth : ℕ} : IsWritable depth .float
  | boolean {depth : ℕ} (value : Bool) : IsWritable depth (.boolean value)
  | moment {depth : ℕ} : IsWritable depth .moment
  | array {depth : ℕ} {items : List Toml} (writable : ∀ item ∈ items, IsWritable depth item) :
      IsWritable (depth + 1) (.array items)
  | table {depth : ℕ} {entries : List (String × Toml)} (distinct : (entries.map Prod.fst).Nodup)
      (writable : ∀ entry ∈ entries, IsWritable depth entry.2) :
      IsWritable (depth + 1) (.table entries)

theorem spellsItems_render {items : List Toml}
    (hitems : ∀ item ∈ items, Spells width depth (render item) item) :
    SpellsItems width depth (renderItems items) items := by
  induction items with
  | nil => exact .none .nil
  | cons item rest ih =>
    rw [List.forall_mem_cons] at hitems
    cases rest with
    | nil => simpa [renderItems] using SpellsItems.last .nil hitems.1 .nil
    | cons next rest => exact .more .nil hitems.1 .nil (ih hitems.2)

theorem spellsPair_render (hwidth : 1 ≤ width) {entry : String × Toml}
    (hentry : Spells width depth (render entry.2) entry.2) {after gap : List Char}
    (hafter : IsBlanks after) (hgap : IsBlanks gap) :
    SpellsPair width depth (quoted entry.1 ++ after ++ '=' :: (gap ++ render entry.2))
      (.ofEntry entry) :=
  .pair (spellsKey_quoted entry.1 hafter) hwidth hgap hentry

theorem spellsPairs_render (hwidth : 1 ≤ width) {entries : List (String × Toml)}
    (hne : entries ≠ [])
    (hentries : ∀ entry ∈ entries, Spells width depth (render entry.2) entry.2) :
    SpellsPairs width depth (renderEntries entries) (entries.map Pair.ofEntry) := by
  induction entries with
  | nil => exact absurd rfl hne
  | cons entry rest ih =>
    rw [List.forall_mem_cons] at hentries
    have hpair := spellsPair_render hwidth hentries.1 isBlanks_nil isBlanks_nil
    rw [List.append_nil, List.nil_append] at hpair
    cases rest with
    | nil => simpa [renderEntries] using SpellsPairs.last isBlanks_nil hpair isBlanks_nil
    | cons next rest =>
      have hmore := SpellsPairs.more isBlanks_nil hpair isBlanks_nil
        (ih (List.cons_ne_nil next rest) hentries.2)
      simpa [renderEntries] using hmore

/-- What the writer makes of a value is one of its spellings. -/
theorem spells_render (hwidth : 1 ≤ width) {value : Toml} (hvalue : IsWritable depth value) :
    Spells width depth (render value) value := by
  induction hvalue with
  | string value => exact spells_quoted value
  | integer hle hlt => exact .integer (spellsInteger_toString _) hle hlt
  | float => exact .float spellsFloat_zero
  | boolean value =>
    cases value with
    | true => exact .yes
    | false => exact .no
  | moment => exact .moment spellsMoment_midnight
  | array _ ih => exact .array (spellsItems_render ih)
  | @table depth entries hdistinct _ ih =>
    by_cases hne : entries = []
    · subst hne
      exact .noPairs isBlanks_nil
    · have hpairs := Spells.pairs (spellsPairs_render hwidth hne ih) (areApart_ofEntry hdistinct)
      rwa [tableOf_ofEntry hdistinct] at hpairs

/-! ## Documents -/

/-- The statements of a section: its header, and a pair for each entry. -/
def statementsOf (draft : SectionDraft) : List Statement :=
  .header false [] draft.1 :: draft.2.map fun entry => .pair (.ofEntry entry)

theorem SpellsLines.cons {statement : Statement} {statements : List Statement}
    (hstatement : SpellsStatement width depth text statement)
    (hrest : SpellsLines width depth rest statements) :
    SpellsLines width depth (text ++ '\n' :: rest) (statement :: statements) := by
  have hline := SpellsLine.full isBlanks_nil hstatement isBlanks_nil (.inl rfl)
  simpa using SpellsLines.more hline (.inl rfl) hrest

/-- A section is written as its statements, a line for each of them. -/
theorem spellsLines_renderSection (hwidth : 1 ≤ width) {draft : SectionDraft}
    (hdraft : ∀ entry ∈ draft.2, IsWritable depth entry.2) {statements : List Statement}
    (hrest : SpellsLines width depth rest statements) :
    SpellsLines width depth (renderSection draft ++ rest) (statementsOf draft ++ statements) := by
  obtain ⟨name, entries⟩ := draft
  have hlines : SpellsLines width depth (entries.flatMap renderLine ++ rest)
      (entries.map (fun entry => Statement.pair (.ofEntry entry)) ++ statements) := by
    induction entries with
    | nil => exact hrest
    | cons entry more ih =>
      rw [List.forall_mem_cons] at hdraft
      have hpair := spellsPair_render hwidth (spells_render hwidth hdraft.1) isBlanks_space
        isBlanks_space
      have hline := SpellsLines.cons (.pair hpair) (ih hdraft.2)
      simpa [renderLine] using hline
  have hheader : SpellsStatement width depth ('[' :: ([] ++ (quoted name ++ [] ++ [']'])))
      (.header false [] name) := .header isBlanks_nil (spellsKey_quoted name isBlanks_nil) hwidth
  simpa [renderSection, statementsOf] using SpellsLines.cons hheader hlines

/-- What the writer makes of sections is a document that has them. -/
theorem document_renderDocument (hwidth : 1 ≤ width) {drafts : List SectionDraft}
    (hdrafts : ∀ draft ∈ drafts, ∀ entry ∈ draft.2, IsWritable depth entry.2) :
    Document width depth (renderDocument drafts) (drafts.flatMap statementsOf) := by
  refine ⟨renderDocument drafts, .inl rfl, ?_⟩
  induction drafts with
  | nil => exact .last (.empty isBlanks_nil (.inl rfl))
  | cons draft rest ih =>
    rw [List.forall_mem_cons] at hdrafts
    exact spellsLines_renderSection hwidth hdrafts.1 (ih hdrafts.2)

/-- The sections of a written document. -/
def sectionOf (draft : SectionDraft) : Section :=
  ⟨false, [], draft.1, draft.2.map Pair.ofEntry⟩

theorem sections_statementsOf (drafts : List SectionDraft) :
    Reader.sections (drafts.flatMap statementsOf) = ([], drafts.map sectionOf) := by
  induction drafts with
  | nil => rfl
  | cons draft rest ih =>
    obtain ⟨name, entries⟩ := draft
    have hpairs : Reader.sections
        (entries.map (fun entry => Statement.pair (.ofEntry entry)) ++ rest.flatMap statementsOf) =
        (entries.map Pair.ofEntry, rest.map sectionOf) := by
      induction entries with
      | nil => exact ih
      | cons entry more ihMore => rw [List.map_cons, List.cons_append, Reader.sections, ihMore]; rfl
    rw [List.flatMap_cons, statementsOf, List.cons_append, Reader.sections, hpairs]
    rfl

/-! ## Reading back -/

/-- The entry that a section makes in the table of its document. -/
def entryOf (draft : SectionDraft) : String × Node :=
  (draft.1, .table .header (draft.2.map fun entry => (entry.1, .leaf entry.2)))

/-- A section with a new name makes an entry behind the others. -/
theorem addSection_sectionOf {entries : Entries} {draft : SectionDraft}
    (hdistinct : (draft.2.map Prod.fst).Nodup) (hnew : ∀ entry ∈ entries, entry.1 ≠ draft.1) :
    addSection entries (sectionOf draft) = some (entries ++ [entryOf draft]) := by
  have hmade : complete (sectionOf draft) none = some (entryOf draft).2 := by
    rw [complete, sectionOf, addPairs_ofEntry hdistinct (by simp)]
    rfl
  exact alter_new hnew hmade

theorem addSections_sectionOf {entries : Entries} {drafts : List SectionDraft}
    (hdistinct : (drafts.map Prod.fst).Nodup)
    (hentries : ∀ draft ∈ drafts, (draft.2.map Prod.fst).Nodup)
    (hnew : ∀ draft ∈ drafts, ∀ entry ∈ entries, entry.1 ≠ draft.1) :
    (drafts.map sectionOf).foldlM addSection entries = some (entries ++ drafts.map entryOf) := by
  induction drafts generalizing entries with
  | nil => simp
  | cons draft rest ih =>
    rw [List.forall_mem_cons] at hentries hnew
    rw [List.map_cons, List.nodup_cons] at hdistinct
    have hnext : ∀ other ∈ rest, ∀ entry ∈ entries ++ [entryOf draft], entry.1 ≠ other.1 := by
      intro other hother
      refine List.forall_mem_append.mpr ⟨hnew.2 other hother, ?_⟩
      rw [List.forall_mem_singleton]
      exact fun heq => hdistinct.1 (List.mem_map.mpr ⟨other, hother, heq.symm⟩)
    rw [List.map_cons, List.foldlM_cons, addSection_sectionOf hentries.1 hnew.1]
    exact (ih hdistinct.2 hentries.2 hnext).trans (by simp)

theorem entryValues_entryOf (drafts : List SectionDraft) :
    entryValues (drafts.map entryOf) = drafts.map fun draft => (draft.1, .table draft.2) := by
  induction drafts with
  | nil => rfl
  | cons draft rest ih =>
    have hinner := entryValues_append_leaf [] draft.2
    rw [List.nil_append] at hinner
    rw [List.map_cons, entryOf, entryValues, Node.value, hinner, ih]
    rfl

/-- A written document is read back as what was written. -/
theorem read?_renderDocument {drafts : List SectionDraft}
    (hdistinct : (drafts.map Prod.fst).Nodup)
    (hentries : ∀ draft ∈ drafts, (draft.2.map Prod.fst).Nodup)
    (hwritable : ∀ draft ∈ drafts, ∀ entry ∈ draft.2, IsWritable Reader.maxDepth entry.2) :
    read? (renderDocument drafts) = some (ofDrafts drafts) := by
  have hdocument := document_renderDocument (by decide : 1 ≤ Reader.maxDepth) hwritable
  have hsections := addSections_sectionOf hdistinct hentries
    (by simp : ∀ draft ∈ drafts, ∀ entry ∈ ([] : Entries), entry.1 ≠ draft.1)
  rw [read?, statements_of_document hdocument, Option.bind_eq_bind, Option.bind_some,
    sections_statementsOf]
  simp [tableOf?, addPairs, hsections, ofDrafts, entryValues_entryOf]

end SyscallPolicy.Toml
