import Mathlib.Tactic.SplitIfs
import SyscallPolicy.Json.Layout
import SyscallPolicy.Json.Spelling
import SyscallPolicy.Proofs.Json.Lexeme

/-!
# Written texts are spellings

What `Json.Layout` writes is a text of the value in the sense of
`Json.Spelling`, in every layout that breaks lines with blanks only.  A
value is built from strings, arrays and objects; `IsWritten` says of a value
that its text is a spelling at every depth, and there is one lemma for each
way to build a value.
-/

namespace SyscallPolicy.Json

/-! ## Strings -/

theorem hexValue?_hexDigit {value : Nat} (hvalue : value < 16) :
    hexValue? (hexDigit value) = some value := by
  revert value
  decide

/-- The escape of a control character gives its code unit. -/
theorem unit?_control {c : Char} (hc : c < ' ') :
    unit? '0' '0' (hexDigit (c.toNat / 16)) (hexDigit (c.toNat % 16)) = some c.toNat := by
  have hlt : c.toNat < 32 := hc
  have hzero : hexValue? '0' = some 0 := by decide
  have hhigh : hexValue? (hexDigit (c.toNat / 16)) = some (c.toNat / 16) :=
    hexValue?_hexDigit (by omega)
  have hlow : hexValue? (hexDigit (c.toNat % 16)) = some (c.toNat % 16) :=
    hexValue?_hexDigit (by omega)
  simp only [unit?, hzero, hhigh, hlow, Option.bind_eq_bind, Option.bind_some, Option.pure_def,
    Option.some.injEq]
  omega

theorem ofUnit_control {c : Char} (hc : c < ' ') : Symbol.ofUnit c.toNat = .char c := by
  have hlt : c.toNat < 32 := hc
  have hleading : isLeading c.toNat = false := by simp [isLeading]; omega
  have htrailing : isTrailing c.toNat = false := by simp [isTrailing]; omega
  simp [Symbol.ofUnit, hleading, htrailing]

/-- A written character is one spelling of it, whatever way it is written. -/
theorem spellsSymbols_escapeChar {c : Char} {text : List Char} {read : List Symbol}
    (hrest : SpellsSymbols text read) :
    SpellsSymbols (escapeChar c ++ text) (.char c :: read) := by
  unfold escapeChar
  split_ifs with hquote hslash hback hfeed hline hreturn htab hcontrol
  · exact .short (by simp [shortEscape?, hquote]) hrest
  · exact .short (by simp [shortEscape?, hslash]) hrest
  · exact .short (by simp [shortEscape?, hback]) hrest
  · exact .short (by simp [shortEscape?, hfeed]) hrest
  · exact .short (by simp [shortEscape?, hline]) hrest
  · exact .short (by simp [shortEscape?, hreturn]) hrest
  · exact .short (by simp [shortEscape?, htab]) hrest
  · rw [← ofUnit_control hcontrol]
    exact .unit (unit?_control hcontrol) hrest
  · refine .plain ?_ hrest
    simp [isPlain, hquote, hslash, Char.not_lt.mp hcontrol]

theorem spellsString_quoted (s : List Char) :
    SpellsString (quoted (symbolsOf s)) (symbolsOf s) := by
  refine ⟨(symbolsOf s).flatMap escapeSymbol, rfl, ?_⟩
  induction s with
  | nil => exact .nil
  | cons c s ih => exact spellsSymbols_escapeChar ih

/-! ## Values -/

/-- Whether a layout has nothing but blanks between tokens. -/
structure Layout.IsBlank (layout : Layout) : Prop where
  lineBreak : ∀ depth, IsBlanks (layout.lineBreak depth)
  gap : IsBlanks layout.gap

theorem Layout.isBlank_compact : Layout.compact.IsBlank :=
  ⟨fun _ => isBlanks_nil, isBlanks_nil⟩

theorem Layout.isBlank_indented : Layout.indented.IsBlank where
  lineBreak depth c hc := by
    rcases List.mem_cons.mp hc with rfl | hspace
    · decide
    · rw [List.eq_of_mem_replicate hspace]
      decide
  gap c hc := by
    rw [List.mem_singleton.mp hc]
    decide

/-- Whether the text of a value is a spelling of it, however deep it stands. -/
def IsWritten (layout : Layout) (found : Json) : Prop :=
  ∀ depth, Spells (render layout depth found) found

variable {layout : Layout}

theorem isWritten_ofString (s : String) : IsWritten layout (.ofString s) := fun depth => by
  rw [ofString, render]
  exact .string (spellsString_quoted s.toList)

/-- The written text of a value is a document of it. -/
theorem document_write {found : Json} (hwritten : IsWritten layout found) :
    Document (found.write layout).toList found := by
  refine ⟨[], render layout 0 found, [], ?_, isBlanks_nil, hwritten 0, isBlanks_nil⟩
  simp [write]

section Containers

variable (hblank : layout.IsBlank)
include hblank

theorem spellsItems_render {before after : List Char} (hbefore : IsBlanks before)
    (hafter : IsBlanks after) (depth : Nat) {item : Json} {items : List Json}
    (hitem : IsWritten layout item) (hitems : ∀ other ∈ items, IsWritten layout other) :
    SpellsItems (before ++ render layout depth item ++ renderItems layout depth items ++ after)
      (item :: items) := by
  induction items generalizing before item with
  | nil =>
    rw [renderItems, List.append_nil]
    exact .last hbefore (hitem depth) hafter
  | cons next items ih =>
    have hrest := ih (hblank.lineBreak depth) (hitems next List.mem_cons_self)
      fun other hother => hitems other (List.mem_cons_of_mem _ hother)
    have hall := SpellsItems.more hbefore (hitem depth) isBlanks_nil hrest
    simpa [renderItems] using hall

theorem isWritten_array {items : List Json} (hitems : ∀ item ∈ items, IsWritten layout item) :
    IsWritten layout (.array items) := by
  intro depth
  cases items with
  | nil => exact .noItems isBlanks_nil
  | cons item items =>
    rw [render]
    exact .items (spellsItems_render hblank (hblank.lineBreak _) (hblank.lineBreak _) _
      (hitems item List.mem_cons_self) fun other hother =>
        hitems other (List.mem_cons_of_mem _ hother))

theorem spellsMembers_render {before after : List Char} (hbefore : IsBlanks before)
    (hafter : IsBlanks after) (depth : Nat) {key : List Char} {item : Json}
    {members : List (List Symbol × Json)} (hitem : IsWritten layout item)
    (hmembers : ∀ other ∈ members,
      (∃ s, other.1 = symbolsOf s) ∧ IsWritten layout other.2) :
    SpellsMembers (before ++ quoted (symbolsOf key) ++ ':' :: layout.gap ++
      render layout depth item ++ renderMembers layout depth members ++ after)
      ((symbolsOf key, item) :: members) := by
  induction members generalizing before key item with
  | nil =>
    have hall := SpellsMembers.last hbefore (spellsString_quoted key) isBlanks_nil hblank.gap
      (hitem depth) hafter
    simpa [renderMembers] using hall
  | cons next members ih =>
    obtain ⟨⟨s, hs⟩, hnext⟩ := hmembers next List.mem_cons_self
    obtain ⟨nextKey, nextItem⟩ := next
    obtain rfl : nextKey = symbolsOf s := hs
    have hrest := @ih _ (hblank.lineBreak depth) s nextItem hnext
      fun other hother => hmembers other (List.mem_cons_of_mem _ hother)
    have hall := SpellsMembers.more hbefore (spellsString_quoted key) isBlanks_nil hblank.gap
      (hitem depth) isBlanks_nil hrest
    simpa [renderMembers] using hall

theorem isWritten_object {members : List (List Symbol × Json)}
    (hmembers : ∀ other ∈ members, (∃ s, other.1 = symbolsOf s) ∧ IsWritten layout other.2) :
    IsWritten layout (.object members) := by
  intro depth
  cases members with
  | nil => exact .noMembers isBlanks_nil
  | cons member members =>
    obtain ⟨⟨s, hs⟩, hitem⟩ := hmembers member List.mem_cons_self
    obtain ⟨key, item⟩ := member
    obtain rfl : key = symbolsOf s := hs
    rw [render]
    exact .members (spellsMembers_render hblank (hblank.lineBreak _) (hblank.lineBreak _) _ hitem
      fun other hother => hmembers other (List.mem_cons_of_mem _ hother))

end Containers

end SyscallPolicy.Json
