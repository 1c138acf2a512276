import SyscallPolicy.Proofs.Json.Lexeme

/-!
# Every spelling is read

`Json.Spelling` says which texts stand for a value, without saying how they
are read.  This module shows that the reader returns the value from each of
them (`read?_of_document`).

The reader spends fuel once a step.  A text of a value needs at most twice
its length, and the inside of a container one step more than that, so the
fuel that the reader starts with is enough.  The inductions are on the length
of the text, because the inside of a container and its first item may be the
same text.
-/

namespace SyscallPolicy.Json

variable {text rest : List Char} {fuel : Nat}

/-! ## How a value begins -/

/-- A value begins with a character that is no blank and closes nothing. -/
theorem spells_cons {found : Json} (hspells : Spells text found) :
    ∃ c others, text = c :: others ∧ isBlank c = false ∧ c ≠ ']' ∧ c ≠ '\x7d' := by
  cases hspells with
  | null => exact ⟨'n', _, rfl, by decide⟩
  | yes => exact ⟨'t', _, rfl, by decide⟩
  | no => exact ⟨'f', _, rfl, by decide⟩
  | number hnumber =>
    obtain ⟨c, others, rfl, rfl | hdigit⟩ := isNumber_cons hnumber
    · exact ⟨'-', others, rfl, by decide⟩
    · refine ⟨c, others, rfl, isBlank_eq_false_of_isDigit hdigit, ?_, ?_⟩
      · rintro rfl
        simp at hdigit
      · rintro rfl
        simp at hdigit
  | string hstring =>
    obtain ⟨inside, rfl, -⟩ := hstring
    exact ⟨'"', _, rfl, by decide⟩
  | noItems => exact ⟨'[', _, rfl, by decide⟩
  | items => exact ⟨'[', _, rfl, by decide⟩
  | noMembers => exact ⟨'\x7b', _, rfl, by decide⟩
  | members => exact ⟨'\x7b', _, rfl, by decide⟩

theorem skipBlanks_spells {found : Json} (hspells : Spells text found) (rest : List Char) :
    skipBlanks (text ++ rest) = text ++ rest := by
  obtain ⟨c, others, rfl, hc, -, -⟩ := spells_cons hspells
  exact skipBlanks_cons hc _

theorem skipBlanks_key {key : List Char} {read : List Symbol} (hkey : SpellsString key read)
    (rest : List Char) :
    skipBlanks (key ++ rest) = key ++ rest ∧ (key ++ rest).head? = some '"' := by
  obtain ⟨inside, rfl, -⟩ := hkey
  exact ⟨skipBlanks_cons (by decide) _, rfl⟩

/-! ## One step of the reader -/

theorem value_string {inside : List Char} {read : List Symbol}
    (hspells : SpellsSymbols inside read) (rest : List Char) :
    value (fuel + 1) ('"' :: (inside ++ '"' :: rest)) = some (.string read, rest) := by
  rw [value, symbols_of_spells hspells]
  rfl

theorem value_number {literal : List Char} (hnumber : IsNumber literal) (hends : Ends rest) :
    value (fuel + 1) (literal ++ rest) = some (.number literal, rest) := by
  obtain ⟨c, others, rfl, hc⟩ := isNumber_cons hnumber
  rw [value]
  · exact scalar?_number hnumber hends
  all_goals
    intro tail heq
    rw [(List.cons.inj heq).1] at hc
    simp at hc

theorem value_noItems (hskip : skipBlanks text = ']' :: rest) :
    value (fuel + 1) ('[' :: text) = some (.array [], rest) := by
  rw [value, hskip]
  rfl

theorem value_items {found : List Json} (hhead : (skipBlanks text).head? ≠ some ']')
    (hitems : items fuel (skipBlanks text) = some (found, rest)) :
    value (fuel + 1) ('[' :: text) = some (.array found, rest) := by
  rw [value]
  split
  · rename_i heq
    simp [heq] at hhead
  · rw [hitems]
    rfl

theorem value_noMembers (hskip : skipBlanks text = '\x7d' :: rest) :
    value (fuel + 1) ('\x7b' :: text) = some (.object [], rest) := by
  rw [value, hskip]
  rfl

theorem value_members {found : List (List Symbol × Json)}
    (hhead : (skipBlanks text).head? ≠ some '\x7d')
    (hmembers : members fuel (skipBlanks text) = some (found, rest)) :
    value (fuel + 1) ('\x7b' :: text) = some (.object found, rest) := by
  rw [value]
  split
  · rename_i heq
    simp [heq] at hhead
  · rw [hmembers]
    rfl

theorem items_last {item : Json} {after : List Char}
    (hvalue : value fuel text = some (item, after)) (hskip : skipBlanks after = ']' :: rest) :
    items (fuel + 1) text = some ([item], rest) := by
  simp [items, hvalue, hskip]

theorem items_more {item : Json} {found : List Json} {after next : List Char}
    (hvalue : value fuel text = some (item, after)) (hskip : skipBlanks after = ',' :: next)
    (hitems : items fuel (skipBlanks next) = some (found, rest)) :
    items (fuel + 1) text = some (item :: found, rest) := by
  simp [items, hvalue, hskip, hitems]

theorem members_last {key : List Symbol} {item : Json} {afterKey after : List Char}
    (hkey : key? text = some (key, afterKey)) (hvalue : value fuel afterKey = some (item, after))
    (hskip : skipBlanks after = '\x7d' :: rest) :
    members (fuel + 1) text = some ([(key, item)], rest) := by
  simp [members, hkey, hvalue, hskip]

theorem members_more {key : List Symbol} {item : Json} {found : List (List Symbol × Json)}
    {afterKey after next : List Char} (hkey : key? text = some (key, afterKey))
    (hvalue : value fuel afterKey = some (item, after)) (hskip : skipBlanks after = ',' :: next)
    (hmembers : members fuel (skipBlanks next) = some (found, rest)) :
    members (fuel + 1) text = some ((key, item) :: found, rest) := by
  simp [members, hkey, hvalue, hskip, hmembers]

/-- A key is read up to the value of its member. -/
theorem key?_of_spells {key space gap : List Char} {read : List Symbol} {found : Json}
    (hkey : SpellsString key read) (hspace : IsBlanks space) (hgap : IsBlanks gap)
    (hspells : Spells text found) (rest : List Char) :
    key? (key ++ (space ++ ':' :: (gap ++ (text ++ rest)))) = some (read, text ++ rest) := by
  obtain ⟨inside, rfl, hinside⟩ := hkey
  simp only [List.cons_append, List.append_assoc, List.nil_append, key?]
  rw [symbols_of_spells hinside]
  simp [skipBlanks_append_cons hspace (c := ':') (by decide), skipBlanks_append hgap,
    skipBlanks_spells hspells]

/-! ## Every spelling -/

mutual

/-- Only a number needs something behind it to be over. -/
theorem value_of_spells {text : List Char} {found : Json} (hspells : Spells text found)
    {fuel : Nat} (hfuel : 2 * text.length ≤ fuel) {rest : List Char}
    (hends : ∀ literal, found = .number literal → Ends rest) :
    value fuel (text ++ rest) = some (found, rest) := by
  -- The text of a value is not empty, so there is fuel for one step.
  obtain ⟨fuel, rfl⟩ : ∃ less, fuel = less + 1 := by
    obtain ⟨c, others, rfl, -⟩ := spells_cons hspells
    exact ⟨fuel - 1, by simp at hfuel; omega⟩
  cases hspells with
  | null => simp [value, scalar?]
  | yes => simp [value, scalar?]
  | no => simp [value, scalar?]
  | number hnumber => exact value_number hnumber (hends _ rfl)
  | string hstring =>
    obtain ⟨inside, rfl, hinside⟩ := hstring
    simpa using value_string hinside rest
  | noItems hblanks =>
    refine value_noItems ?_
    simp [skipBlanks_append_cons hblanks (c := ']') (by decide)]
  | @items inner found hitems =>
    simp only [List.length_cons, List.length_append, List.length_nil] at hfuel
    have hbound : 2 * inner.length + 1 ≤ fuel := by omega
    have hread := items_of_spells hitems hbound rest
    simpa using value_items hread.1 hread.2
  | noMembers hblanks =>
    refine value_noMembers ?_
    simp [skipBlanks_append_cons hblanks (c := '\x7d') (by decide)]
  | @members inner found hmembers =>
    simp only [List.length_cons, List.length_append, List.length_nil] at hfuel
    have hbound : 2 * inner.length + 1 ≤ fuel := by omega
    have hread := members_of_spells hmembers hbound rest
    simpa using value_members hread.1 hread.2
termination_by 2 * text.length

/-- The items of an array, up to the bracket that closes it. -/
theorem items_of_spells {text : List Char} {found : List Json} (hspells : SpellsItems text found)
    {fuel : Nat} (hfuel : 2 * text.length + 1 ≤ fuel) (rest : List Char) :
    (skipBlanks (text ++ ']' :: rest)).head? ≠ some ']' ∧
      items fuel (skipBlanks (text ++ ']' :: rest)) = some (found, rest) := by
  obtain ⟨fuel, rfl⟩ : ∃ less, fuel = less + 1 := ⟨fuel - 1, by omega⟩
  cases hspells with
  | @last before item after found hbefore hitem hafter =>
    obtain ⟨c, others, heq, -, hc, -⟩ := spells_cons hitem
    simp only [List.length_append] at hfuel
    simp only [List.append_assoc, skipBlanks_append hbefore, skipBlanks_spells hitem]
    refine ⟨by simp [heq, hc], ?_⟩
    have hends : Ends (after ++ ']' :: rest) := ends_append_cons hafter (by simp)
    exact items_last (value_of_spells hitem (by omega) fun _ _ => hends)
      (skipBlanks_append_cons hafter (by decide) rest)
  | @more before item after others found founds hbefore hitem hafter hothers =>
    obtain ⟨c, tail, heq, -, hc, -⟩ := spells_cons hitem
    simp only [List.length_append, List.length_cons] at hfuel
    simp only [List.append_assoc, List.cons_append, skipBlanks_append hbefore,
      skipBlanks_spells hitem]
    refine ⟨by simp [heq, hc], ?_⟩
    have hends : Ends (after ++ ',' :: (others ++ ']' :: rest)) :=
      ends_append_cons hafter (by simp)
    exact items_more (value_of_spells hitem (by omega) fun _ _ => hends)
      (skipBlanks_append_cons hafter (by decide) _) (items_of_spells hothers (by omega) rest).2
termination_by 2 * text.length + 1

/-- The members of an object, up to the brace that closes it. -/
theorem members_of_spells {text : List Char} {found : List (List Symbol × Json)}
    (hspells : SpellsMembers text found) {fuel : Nat} (hfuel : 2 * text.length + 1 ≤ fuel)
    (rest : List Char) :
    (skipBlanks (text ++ '\x7d' :: rest)).head? ≠ some '\x7d' ∧
      members fuel (skipBlanks (text ++ '\x7d' :: rest)) = some (found, rest) := by
  obtain ⟨fuel, rfl⟩ : ∃ less, fuel = less + 1 := ⟨fuel - 1, by omega⟩
  cases hspells with
  | last hbefore hkey hspace hgap hitem hafter =>
    simp only [List.length_append, List.length_cons] at hfuel
    simp only [List.append_assoc, List.cons_append, skipBlanks_append hbefore,
      (skipBlanks_key hkey _).1]
    refine ⟨by simp [(skipBlanks_key hkey _).2], ?_⟩
    exact members_last (key?_of_spells hkey hspace hgap hitem _)
      (value_of_spells hitem (by omega) fun _ _ => ends_append_cons hafter (by simp))
      (skipBlanks_append_cons hafter (by decide) rest)
  | more hbefore hkey hspace hgap hitem hafter hothers =>
    simp only [List.length_append, List.length_cons] at hfuel
    simp only [List.append_assoc, List.cons_append, skipBlanks_append hbefore,
      (skipBlanks_key hkey _).1]
    refine ⟨by simp [(skipBlanks_key hkey _).2], ?_⟩
    exact members_more (key?_of_spells hkey hspace hgap hitem _)
      (value_of_spells hitem (by omega) fun _ _ => ends_append_cons hafter (by simp))
      (skipBlanks_append_cons hafter (by decide) _) (members_of_spells hothers (by omega) rest).2
termination_by 2 * text.length + 1

end

/-- The reader returns the value that a text stands for. -/
theorem read?_of_document {found : Json} (hdocument : Document text found) :
    read? text = some found := by
  obtain ⟨before, inside, after, rfl, hbefore, hspells, hafter⟩ := hdocument
  have hends : Ends after := by
    intro c hc
    exact Or.inl (hafter c (List.mem_of_mem_head? hc))
  rw [read?, List.append_assoc, skipBlanks_append hbefore, skipBlanks_spells hspells,
    value_of_spells hspells (by simp; omega) fun _ _ => hends]
  have hskip : skipBlanks after = [] := by
    rw [← List.append_nil after, skipBlanks_append hafter]
    rfl
  simp [hskip]

end SyscallPolicy.Json
