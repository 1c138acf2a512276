import Mathlib.Data.List.TakeWhile
import SyscallPolicy.Proofs.Json.Complete

/-!
# Only spellings are read

The other half of `Proofs.Json.Complete`: where the reader returns a value,
the text is one of its spellings, so that reader and grammar agree
(`read?_eq_some_iff`).

Each lemma takes one reading function and says which part of the text was
passed over, with the rest of the text behind it.  The parts of a string or
a number come first; `spells_of_value` and its companions go down the fuel
of the nested functions.
-/

namespace SyscallPolicy.Json

variable {s rest : List Char}

/-- What is passed over in front of a token is blank. -/
theorem exists_blanks (s : List Char) :
    ∃ blanks, s = blanks ++ skipBlanks s ∧ IsBlanks blanks :=
  ⟨s.takeWhile isBlank, List.takeWhile_append_dropWhile.symm,
    fun _ hc => List.mem_takeWhile_imp hc⟩

/-! ## Strings -/

theorem spellsSymbols_of_symbols {read : List Symbol} (hread : symbols s = some (read, rest)) :
    ∃ inside, s = inside ++ '"' :: rest ∧ SpellsSymbols inside read := by
  fun_induction symbols s generalizing read with
  | case1 => cases hread
  | case2 a b c d others unit found left hothers hunit ih =>
    cases hread
    obtain ⟨inside, rfl, hinside⟩ := ih hothers
    exact ⟨_, rfl, .unit hunit hinside⟩
  | case3 => cases hread
  | case4 letter others _ c found left hothers hshort ih =>
    cases hread
    obtain ⟨inside, rfl, hinside⟩ := ih hothers
    exact ⟨_, rfl, .short hshort hinside⟩
  | case5 => cases hread
  | case6 others =>
    cases hread
    exact ⟨[], rfl, .nil⟩
  | case7 c others _ _ _ hplain ih =>
    obtain ⟨⟨found, left⟩, hothers, heq⟩ := Option.map_eq_some_iff.mp hread
    cases heq
    obtain ⟨inside, rfl, hinside⟩ := ih hothers
    exact ⟨_, rfl, .plain hplain hinside⟩
  | case8 => cases hread

/-! ## Numbers -/

theorem isDigits_of_digits? {found : List Char} (hread : digits? s = some (found, rest)) :
    s = found ++ rest ∧ IsDigits found := by
  unfold digits? at hread
  split at hread
  · cases hread
  · rename_i hne
    cases hread
    exact ⟨List.takeWhile_append_dropWhile.symm, hne, fun _ hc => List.mem_takeWhile_imp hc⟩

theorem isWhole_of_integer? {found : List Char} (hread : integer? s = some (found, rest)) :
    s = found ++ rest ∧ IsWhole found := by
  unfold integer? at hread
  split at hread
  · cases hread
    exact ⟨rfl, Or.inl rfl⟩
  · rename_i hzero
    obtain ⟨rfl, hdigits⟩ := isDigits_of_digits? hread
    refine ⟨rfl, Or.inr ⟨hdigits, fun hhead => ?_⟩⟩
    obtain ⟨others, rfl⟩ := List.head?_eq_some_iff.mp hhead
    exact hzero _ rfl

theorem isFraction_of_fraction? {found : List Char} (hread : fraction? s = some (found, rest)) :
    s = found ++ rest ∧ IsFraction found := by
  unfold fraction? at hread
  split at hread
  · obtain ⟨⟨digits, left⟩, hfound, heq⟩ := Option.map_eq_some_iff.mp hread
    cases heq
    obtain ⟨rfl, hdigits⟩ := isDigits_of_digits? hfound
    exact ⟨rfl, Or.inr ⟨digits, rfl, hdigits⟩⟩
  · cases hread
    exact ⟨rfl, Or.inl rfl⟩

theorem isSign_of_exponentSign {sign : List Char} (hread : exponentSign s = (sign, rest)) :
    s = sign ++ rest ∧ (sign = [] ∨ sign = ['+'] ∨ sign = ['-']) := by
  unfold exponentSign at hread
  split at hread <;> cases hread <;> simp

theorem isExponent_of_exponent? {found : List Char} (hread : exponent? s = some (found, rest)) :
    s = found ++ rest ∧ IsExponent found := by
  unfold exponent? at hread
  split at hread
  · cases hread
    exact ⟨rfl, Or.inl rfl⟩
  · rename_i mark others
    split at hread
    · rename_i hmark
      cases hsign : exponentSign others with
      | mk sign left =>
        simp only [hsign] at hread
        obtain ⟨⟨digits, _⟩, hfound, heq⟩ := Option.map_eq_some_iff.mp hread
        cases heq
        obtain ⟨rfl, hsigned⟩ := isSign_of_exponentSign hsign
        obtain ⟨rfl, hdigits⟩ := isDigits_of_digits? hfound
        exact ⟨by simp, Or.inr ⟨mark, sign, digits, rfl, hmark, hsigned, hdigits⟩⟩
    · cases hread
      exact ⟨rfl, Or.inl rfl⟩

/-- The parts of a number without a sign. -/
theorem exists_parts_of_unsigned? {found : List Char} (hread : unsigned? s = some (found, rest)) :
    ∃ whole fraction exponent, found = whole ++ fraction ++ exponent ∧ s = found ++ rest ∧
      IsWhole whole ∧ IsFraction fraction ∧ IsExponent exponent := by
  simp only [unsigned?, Option.bind_eq_bind, Option.bind_eq_some_iff, Option.pure_def] at hread
  obtain ⟨⟨whole, s₁⟩, hfirst, ⟨fraction, s₂⟩, hsecond, ⟨exponent, s₃⟩, hthird, heq⟩ := hread
  cases heq
  obtain ⟨rfl, hwhole⟩ := isWhole_of_integer? hfirst
  obtain ⟨rfl, hfraction⟩ := isFraction_of_fraction? hsecond
  obtain ⟨rfl, hexponent⟩ := isExponent_of_exponent? hthird
  exact ⟨whole, fraction, exponent, rfl, by simp, hwhole, hfraction, hexponent⟩

theorem isNumber_of_number? {found : List Char} (hread : number? s = some (found, rest)) :
    s = found ++ rest ∧ IsNumber found := by
  unfold number? at hread
  split at hread
  · obtain ⟨⟨literal, left⟩, hliteral, heq⟩ := Option.map_eq_some_iff.mp hread
    cases heq
    obtain ⟨whole, fraction, exponent, rfl, rfl, hparts⟩ := exists_parts_of_unsigned? hliteral
    exact ⟨rfl, ['-'], whole, fraction, exponent, by simp, Or.inr rfl, hparts⟩
  · obtain ⟨whole, fraction, exponent, rfl, rfl, hparts⟩ := exists_parts_of_unsigned? hread
    exact ⟨rfl, [], whole, fraction, exponent, by simp, Or.inl rfl, hparts⟩

theorem spells_of_scalar? {found : Json} (hread : scalar? s = some (found, rest)) :
    ∃ text, s = text ++ rest ∧ Spells text found := by
  unfold scalar? at hread
  split at hread
  · cases hread
    exact ⟨_, rfl, .null⟩
  · cases hread
    exact ⟨_, rfl, .yes⟩
  · cases hread
    exact ⟨_, rfl, .no⟩
  · obtain ⟨⟨literal, left⟩, hliteral, heq⟩ := Option.map_eq_some_iff.mp hread
    cases heq
    obtain ⟨rfl, hnumber⟩ := isNumber_of_number? hliteral
    exact ⟨literal, rfl, .number hnumber⟩

/-! ## Nested values -/

theorem spellsString_of_key? {key : List Symbol} (hread : key? s = some (key, rest)) :
    ∃ text space gap, s = text ++ (space ++ ':' :: (gap ++ rest)) ∧ SpellsString text key ∧
      IsBlanks space ∧ IsBlanks gap := by
  unfold key? at hread
  split at hread
  · simp only [Option.bind_eq_bind, Option.bind_eq_some_iff] at hread
    obtain ⟨⟨found, left⟩, hfound, hread⟩ := hread
    obtain ⟨inside, rfl, hinside⟩ := spellsSymbols_of_symbols hfound
    obtain ⟨space, hspace, hblank⟩ := exists_blanks left
    split at hread
    · rename_i others hcolon
      cases hread
      obtain ⟨gap, hgap, hblankGap⟩ := exists_blanks others
      refine ⟨'"' :: (inside ++ ['"']), space, gap, ?_, ⟨inside, rfl, hinside⟩, hblank, hblankGap⟩
      rw [← hgap, ← hcolon, ← hspace]
      simp
    · cases hread
  · cases hread

mutual

theorem spells_of_value {fuel : Nat} {s rest : List Char} {found : Json}
    (hread : value fuel s = some (found, rest)) : ∃ text, s = text ++ rest ∧ Spells text found := by
  unfold value at hread
  split at hread
  · cases hread
  · obtain ⟨⟨read, left⟩, hsymbols, heq⟩ := Option.map_eq_some_iff.mp hread
    cases heq
    obtain ⟨inside, rfl, hinside⟩ := spellsSymbols_of_symbols hsymbols
    exact ⟨'"' :: (inside ++ ['"']), by simp, .string ⟨inside, rfl, hinside⟩⟩
  · rename_i fuel others
    split at hread
    · rename_i left hclosed
      cases hread
      obtain ⟨blanks, hblanks, hblank⟩ := exists_blanks others
      refine ⟨'[' :: (blanks ++ [']']), ?_, .noItems hblank⟩
      rw [hblanks, hclosed]
      simp
    · obtain ⟨⟨read, left⟩, hitems, heq⟩ := Option.map_eq_some_iff.mp hread
      cases heq
      obtain ⟨text, rfl, hspelled⟩ := spellsItems_of_items hitems
      exact ⟨'[' :: (text ++ [']']), by simp, .items hspelled⟩
  · rename_i fuel others
    split at hread
    · rename_i left hclosed
      cases hread
      obtain ⟨blanks, hblanks, hblank⟩ := exists_blanks others
      refine ⟨'\x7b' :: (blanks ++ ['\x7d']), ?_, .noMembers hblank⟩
      rw [hblanks, hclosed]
      simp
    · obtain ⟨⟨read, left⟩, hmembers, heq⟩ := Option.map_eq_some_iff.mp hread
      cases heq
      obtain ⟨text, rfl, hspelled⟩ := spellsMembers_of_members hmembers
      exact ⟨'\x7b' :: (text ++ ['\x7d']), by simp, .members hspelled⟩
  · exact spells_of_scalar? hread

/-- The blanks in front of the first item count as part of the items. -/
theorem spellsItems_of_items {fuel : Nat} {s rest : List Char} {found : List Json}
    (hread : items fuel (skipBlanks s) = some (found, rest)) :
    ∃ text, s = text ++ ']' :: rest ∧ SpellsItems text found := by
  cases fuel with
  | zero => cases hread
  | succ fuel =>
    simp only [items, Option.bind_eq_bind, Option.bind_eq_some_iff] at hread
    obtain ⟨⟨item, afterItem⟩, hitem, hread⟩ := hread
    obtain ⟨before, hbefore, hblank⟩ := exists_blanks s
    obtain ⟨text, htext, hspelled⟩ := spells_of_value hitem
    obtain ⟨after, hafter, hblankAfter⟩ := exists_blanks afterItem
    rw [htext] at hbefore
    split at hread
    · rename_i left hclosed
      cases hread
      refine ⟨before ++ text ++ after, ?_, .last hblank hspelled hblankAfter⟩
      rw [hbefore, hafter, hclosed]
      simp
    · rename_i left hcomma
      obtain ⟨⟨others, _⟩, hothers, heq⟩ := Option.bind_eq_some_iff.mp hread
      cases heq
      obtain ⟨further, rfl, hfurther⟩ := spellsItems_of_items hothers
      refine ⟨_, ?_, .more hblank hspelled hblankAfter hfurther⟩
      rw [hbefore, hafter, hcomma]
      simp
    · cases hread

/-- The blanks in front of the first key count as part of the members. -/
theorem spellsMembers_of_members {fuel : Nat} {s rest : List Char}
    {found : List (List Symbol × Json)}
    (hread : members fuel (skipBlanks s) = some (found, rest)) :
    ∃ text, s = text ++ '\x7d' :: rest ∧ SpellsMembers text found := by
  cases fuel with
  | zero => cases hread
  | succ fuel =>
    simp only [members, Option.bind_eq_bind, Option.bind_eq_some_iff] at hread
    obtain ⟨⟨key, afterKey⟩, hkey, ⟨item, afterItem⟩, hitem, hread⟩ := hread
    dsimp only at hitem hread
    obtain ⟨before, hbefore, hblank⟩ := exists_blanks s
    obtain ⟨named, space, gap, hnamed, hstring, hspace, hgap⟩ := spellsString_of_key? hkey
    obtain ⟨text, htext, hspelled⟩ := spells_of_value hitem
    obtain ⟨after, hafter, hblankAfter⟩ := exists_blanks afterItem
    rw [hnamed, htext] at hbefore
    split at hread
    · rename_i left hclosed
      cases hread
      refine ⟨_, ?_, .last hblank hstring hspace hgap hspelled hblankAfter⟩
      rw [hbefore, hafter, hclosed]
      simp
    · rename_i left hcomma
      obtain ⟨⟨others, _⟩, hothers, heq⟩ := Option.bind_eq_some_iff.mp hread
      cases heq
      obtain ⟨further, rfl, hfurther⟩ := spellsMembers_of_members hothers
      refine ⟨_, ?_, .more hblank hstring hspace hgap hspelled hblankAfter hfurther⟩
      rw [hbefore, hafter, hcomma]
      simp
    · cases hread

end

/-- A text from which the reader takes a value is a document of it. -/
theorem document_of_read? {found : Json} (hread : read? s = some found) : Document s found := by
  unfold read? at hread
  split at hread
  · rename_i value left hvalue
    split at hread
    · rename_i hend
      cases hread
      obtain ⟨before, hbefore, hblank⟩ := exists_blanks s
      obtain ⟨inside, hinside, hspelled⟩ := spells_of_value hvalue
      obtain ⟨after, hafter, hblankAfter⟩ := exists_blanks left
      rw [hend, List.append_nil] at hafter
      refine ⟨before, inside, left, ?_, hblank, hspelled, hafter ▸ hblankAfter⟩
      rw [hbefore, hinside, List.append_assoc]
    · cases hread
  · cases hread

/-- The reader takes a value from a text exactly if the text is a document of
it; so no text is a document of two values. -/
theorem read?_eq_some_iff {found : Json} : read? s = some found ↔ Document s found :=
  ⟨document_of_read?, read?_of_document⟩

end SyscallPolicy.Json
