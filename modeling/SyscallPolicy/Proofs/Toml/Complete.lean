import SyscallPolicy.Proofs.Toml.Lexeme
import SyscallPolicy.Proofs.Toml.Scalar
import SyscallPolicy.Proofs.Toml.Tree

/-!
# Every document is read

`Toml.Spelling` says which texts are documents, without saying how they are read.  This
module shows that the reader finds the statements of each of them (`statements_of_document`),
as long as values do not nest deeper, and keys have no more parts, than the reader allows.

The reader spends fuel once a step.  A text of a value needs at most twice its length, and
the inside of a container one step more than that.  The inductions are on the length of the
text, because the inside of an array and its first item may be the same text.
-/

namespace SyscallPolicy.Toml

open Lexeme (endOfLine? isBare isBlank keyParts lineFeed? skipBlanks)
open Reader (Statement maxDepth skipSpace)

variable {text rest : List Char} {fuel depth : ℕ}

/-! ## How a value begins -/

/-- Whether a value may begin with a character. -/
def opens (c : Char) : Bool :=
  Scalar.isScalarChar c || c ∈ ['"', '\'', '[', '\x7b']

/-- A value begins with no blank, line end or comment, and not with what closes an array. -/
theorem isSolid_of_opens {c : Char} (hopens : opens c = true) :
    IsSolid c ∧ c ≠ '#' ∧ c ≠ ']' := by
  refine ⟨⟨?_, ?_, ?_⟩, ?_, ?_⟩
  · by_contra hblank
    simp only [isBlank, Bool.not_eq_false, Bool.or_eq_true, beq_iff_eq] at hblank
    rcases hblank with rfl | rfl <;> exact absurd hopens (by decide)
  all_goals
    rintro rfl
    exact absurd hopens (by decide)

theorem isRun_true : IsRun ['t', 'r', 'u', 'e'] (.boolean true) :=
  ⟨by simp, List.all_eq_true.mp rfl, rfl⟩

theorem isRun_false : IsRun ['f', 'a', 'l', 's', 'e'] (.boolean false) :=
  ⟨by simp, List.all_eq_true.mp rfl, rfl⟩

theorem IsRun.exists_cons {found : Toml} (hrun : IsRun text found) :
    ∃ c others, text = c :: others ∧ Scalar.isScalarChar c = true := by
  obtain ⟨c, others, rfl⟩ := List.exists_cons_of_ne_nil hrun.ne_nil
  exact ⟨c, others, rfl, hrun.isScalarChar c List.mem_cons_self⟩

theorem SpellsDate.exists_cons (hspells : SpellsDate text) :
    ∃ c others, text = c :: others ∧ Scalar.isScalarChar c = true := by
  have hchars : ∀ c ∈ text, Scalar.isScalarChar c = true := fun _ => hspells.isScalarChar
  cases hspells with
  | day => exact ⟨_, _, rfl, hchars _ List.mem_cons_self⟩

theorem SpellsMoment.exists_cons (hspells : SpellsMoment text) :
    ∃ c others, text = c :: others ∧ Scalar.isScalarChar c = true := by
  cases hspells with
  | date hdate => exact hdate.exists_cons
  | time htime =>
    obtain ⟨c, others, rfl⟩ := List.exists_cons_of_ne_nil htime.ne_nil
    exact ⟨c, others, rfl, isScalarChar_zonedTime htime .none (by simp)⟩
  | both hdate =>
    obtain ⟨c, others, rfl, hc⟩ := hdate.exists_cons
    exact ⟨c, _, rfl, hc⟩

theorem SpellsString.exists_cons {content : List Char} (hspells : SpellsString text content) :
    ∃ c others, text = c :: others ∧ (c = '"' ∨ c = '\'') := by
  cases hspells with
  | basic => exact ⟨'"', _, rfl, .inl rfl⟩
  | literal => exact ⟨'\'', _, rfl, .inr rfl⟩
  | long hquote => exact ⟨_, _, rfl, hquote⟩

/-- What begins like a scalar is read as one. -/
theorem value_scalar {found : Toml}
    (hhead : ∃ c others, text = c :: others ∧ Scalar.isScalarChar c = true)
    (hread : Scalar.scalar (text ++ rest) = some (found, rest)) :
    Reader.value (fuel + 1) depth (text ++ rest) = some (found, rest) := by
  obtain ⟨c, others, rfl, hc⟩ := hhead
  rw [List.cons_append] at hread ⊢
  rw [Reader.value, hread]
  all_goals
    intro tail heq
    rw [(List.cons.inj heq).1] at hc
    exact absurd hc (by decide)

theorem value_run {found : Toml} (hrun : IsRun text found) (hends : Ends rest) :
    Reader.value (fuel + 1) depth (text ++ rest) = some (found, rest) :=
  value_scalar hrun.exists_cons (scalar_append hrun hends)

theorem Ends.head_ne_quote (hends : Ends rest) :
    rest.head? ≠ some '"' ∧ rest.head? ≠ some '\'' := by
  constructor
  all_goals
    intro hhead
    obtain ⟨others, rfl⟩ := List.head?_eq_some_iff.mp hhead
    exact absurd (hends _ (by rw [skipBlanks_cons (by decide)]; rfl)) (by decide)

theorem value_string {content : List Char} (hspells : SpellsString text content)
    (hends : Ends rest) : Reader.value (fuel + 1) depth (text ++ rest) =
      some (.string (String.ofList content), rest) := by
  have hread := string_append hspells hends.head_ne_quote
  obtain ⟨c, others, rfl, rfl | rfl⟩ := hspells.exists_cons
  · rw [List.cons_append] at hread ⊢
    rw [Reader.value, hread]
    rfl
  · rw [List.cons_append] at hread ⊢
    rw [Reader.value, hread]
    rfl

/-- A value begins with a character that opens one. -/
theorem spells_cons {width : ℕ} {found : Toml} (hspells : Spells width depth text found) :
    ∃ c others, text = c :: others ∧ opens c = true := by
  have hscalar : (∃ c others, text = c :: others ∧ Scalar.isScalarChar c = true) →
      ∃ c others, text = c :: others ∧ opens c = true := by
    rintro ⟨c, others, rfl, hc⟩
    exact ⟨c, others, rfl, by simp [opens, hc]⟩
  cases hspells with
  | string hstring =>
    obtain ⟨c, others, rfl, rfl | rfl⟩ := hstring.exists_cons
    · exact ⟨'"', others, rfl, by decide⟩
    · exact ⟨'\'', others, rfl, by decide⟩
  | integer hinteger hle hlt => exact hscalar (isRun_integer hinteger hle hlt).exists_cons
  | float hfloat => exact hscalar (isRun_float hfloat).exists_cons
  | yes => exact hscalar isRun_true.exists_cons
  | no => exact hscalar isRun_false.exists_cons
  | moment hmoment => exact hscalar hmoment.exists_cons
  | array => exact ⟨'[', _, rfl, by decide⟩
  | noPairs => exact ⟨'\x7b', _, rfl, by decide⟩
  | pairs => exact ⟨'\x7b', _, rfl, by decide⟩

/-- Space in front of a value is skipped, and no more. -/
theorem skipSpace_spells {width : ℕ} {found : Toml} {before : List Char}
    (hbefore : IsSpace before) (hspells : Spells width depth text found) (rest : List Char) :
    skipSpace ((before ++ (text ++ rest)).length + 1) (before ++ (text ++ rest)) =
      text ++ rest := by
  obtain ⟨c, others, rfl, hopens⟩ := spells_cons hspells
  obtain ⟨hsolid, hhash, -⟩ := isSolid_of_opens hopens
  exact skipSpace_append hbefore hsolid hhash (by rw [List.length_append]; omega) _

theorem head_ne_bracket {width : ℕ} {found : Toml} (hspells : Spells width depth text found)
    (rest : List Char) : (text ++ rest).head? ≠ some ']' := by
  obtain ⟨c, others, rfl, hopens⟩ := spells_cons hspells
  simpa using (isSolid_of_opens hopens).2.2

theorem skipSpace_close {after : List Char} (hafter : IsSpace after) {c : Char}
    (hc : c = ',' ∨ c = ']') (rest : List Char) :
    skipSpace ((after ++ c :: rest).length + 1) (after ++ c :: rest) = c :: rest := by
  have hsolid : IsSolid c ∧ c ≠ '#' := by
    rcases hc with rfl | rfl <;> exact ⟨⟨by decide, by decide, by decide⟩, by decide⟩
  exact skipSpace_append hafter hsolid.1 hsolid.2 (by rw [List.length_append]; omega) _

/-! ## Where a value is over -/

theorem ends_cons {c : Char} (hc : c ∈ enders) (rest : List Char) :
    Ends (c :: rest) := by
  intro d hd
  rw [skipBlanks_cons (of_mem_enders hc).2] at hd
  cases hd
  exact hc

theorem ends_blanks {blanks : List Char} (hblanks : IsBlanks blanks) (hends : Ends rest) :
    Ends (blanks ++ rest) := by
  intro c hc
  rw [skipBlanks_append hblanks] at hc
  exact hends c hc

/-- Space, and a comma or bracket behind it, ends a value: a comment or a line end comes
first, or the comma or bracket does. -/
theorem ends_space {after : List Char} (hafter : IsSpace after) {c : Char}
    (hc : c ∈ enders) (rest : List Char) :
    Ends (after ++ c :: rest) := by
  induction hafter with
  | nil => exact ends_cons hc rest
  | @blank d others hblank _ ih =>
    have hblanks : IsBlanks [d] := by simpa [IsBlanks] using hblank
    have hends := ends_blanks hblanks ih
    exact hends
  | @line remark feed others hremark hfeed _ _ =>
    rcases hremark with rfl | ⟨inside, rfl, -⟩
    · rcases hfeed with rfl | rfl <;> exact ends_cons (by decide) _
    · exact ends_cons (by decide) _

/-! ## Keys -/

theorem splitKey_append {path : List String} {name : String}
    (hshort : (path ++ [name]).length ≤ maxDepth) :
    Reader.splitKey (path ++ [name]) = some (path, name) := by
  rw [Reader.splitKey, if_pos hshort, List.getLast?_concat, List.dropLast_concat]
  rfl

/-- A key is read up to the sign or bracket behind it. -/
theorem key_append {key blanks : List Char} {path : List String} {name : String}
    (hblanks : IsBlanks blanks) (hkey : SpellsKey key (path ++ [name]))
    (hshort : (path ++ [name]).length ≤ maxDepth) (hends : EndsKey rest) :
    Reader.key (blanks ++ (key ++ rest)) = some ((path, name), rest) := by
  rw [Reader.key, keyParts_append hkey hblanks hends (by simp; omega)]
  simp only [Option.bind_eq_bind, Option.bind_some, splitKey_append hshort]
  rfl

theorem SpellsKey.exists_cons {key : List Char} {parts : List String} (hkey : SpellsKey key parts) :
    ∃ c others, key = c :: others ∧ (isBare c = true ∨ c = '"' ∨ c = '\'') := by
  obtain ⟨first, others, part, rfl, hpart⟩ := hkey.exists_part
  obtain ⟨c, more, rfl, hc⟩ := hpart.exists_cons
  exact ⟨c, more ++ others, rfl, hc⟩

/-! ## One step of the reader -/

theorem value_array {found : List Toml}
    (hitems : Reader.items fuel depth text = some (found, rest)) :
    Reader.value (fuel + 1) (depth + 1) ('[' :: text) = some (.array found, rest) := by
  rw [Reader.value, if_neg (by omega), Nat.add_sub_cancel, hitems]
  rfl

theorem value_noPairs (hskip : skipBlanks text = '\x7d' :: rest) :
    Reader.value (fuel + 1) (depth + 1) ('\x7b' :: text) = some (.table [], rest) := by
  rw [Reader.value, if_neg (by omega), hskip]
  rfl

theorem value_pairs {pairs : List Pair} (hhead : (skipBlanks text).head? ≠ some '\x7d')
    (hpairs : Reader.inlinePairs fuel depth (skipBlanks text) = some (pairs, rest))
    (happart : AreApart pairs) :
    Reader.value (fuel + 1) (depth + 1) ('\x7b' :: text) = some (tableOf pairs, rest) := by
  rw [Reader.value, if_neg (by omega), Nat.add_sub_cancel]
  split
  · rename_i heq
    simp [heq] at hhead
  · rw [hpairs]
    simp [tableOf?_of_apart happart]

theorem items_none (hskip : skipSpace (text.length + 1) text = ']' :: rest) :
    Reader.items (fuel + 1) depth text = some ([], rest) := by
  rw [Reader.items, hskip]
  rfl

section Items

variable {item : Toml} {after inside : List Char}
  (hskip : skipSpace (text.length + 1) text = inside) (hhead : inside.head? ≠ some ']')
  (hvalue : Reader.value fuel depth inside = some (item, after))
include hskip hhead hvalue

theorem items_last (hclose : skipSpace (after.length + 1) after = ']' :: rest) :
    Reader.items (fuel + 1) depth text = some ([item], rest) := by
  rw [Reader.items, hskip]
  split
  · simp at hhead
  · simp [hvalue, hclose]

theorem items_more {found : List Toml} {next : List Char}
    (hcomma : skipSpace (after.length + 1) after = ',' :: next)
    (hitems : Reader.items fuel depth next = some (found, rest)) :
    Reader.items (fuel + 1) depth text = some (item :: found, rest) := by
  rw [Reader.items, hskip]
  split
  · simp at hhead
  · simp [hvalue, hcomma, hitems]

end Items

section Pairs

variable {path : List String} {name : String} {found : Toml} {next after : List Char}
  (hkey : Reader.key text = some ((path, name), '=' :: next))
  (hvalue : Reader.value fuel depth (skipBlanks next) = some (found, after))
include hkey hvalue

theorem inlinePairs_last (hclose : skipBlanks after = '\x7d' :: rest) :
    Reader.inlinePairs (fuel + 1) depth text = some ([⟨path, name, found⟩], rest) := by
  rw [Reader.inlinePairs, hkey]
  simp [hvalue, hclose]

theorem inlinePairs_more {pairs : List Pair} {others : List Char}
    (hcomma : skipBlanks after = ',' :: others)
    (hpairs : Reader.inlinePairs fuel depth others = some (pairs, rest)) :
    Reader.inlinePairs (fuel + 1) depth text = some (⟨path, name, found⟩ :: pairs, rest) := by
  rw [Reader.inlinePairs, hkey]
  simp [hvalue, hcomma, hpairs]

end Pairs

/-- Blanks behind the equals sign are skipped, and no more. -/
theorem skipBlanks_spells {width : ℕ} {found : Toml} {gap : List Char} (hgap : IsBlanks gap)
    (hspells : Spells width depth text found) (rest : List Char) :
    skipBlanks (gap ++ (text ++ rest)) = text ++ rest := by
  obtain ⟨c, others, rfl, hopens⟩ := spells_cons hspells
  exact skipBlanks_append_cons hgap (isSolid_of_opens hopens).1.1 _

/-- Pairs may begin with blanks, and the same pairs without them begin with a key. -/
theorem SpellsPairs.skipBlanks_append {width : ℕ} {pairs : List Pair}
    (hspells : SpellsPairs width depth text pairs) :
    ∃ bare, SpellsPairs width depth bare pairs ∧ bare.length ≤ text.length ∧
      ∀ rest, skipBlanks (text ++ rest) = bare ++ rest ∧ (bare ++ rest).head? ≠ some '\x7d' := by
  have hpair : ∀ {inside : List Char} {pair : Pair}, SpellsPair width depth inside pair →
      ∀ rest, skipBlanks (inside ++ rest) = inside ++ rest ∧
        (inside ++ rest).head? ≠ some '\x7d' := by
    rintro inside pair ⟨hkey, -, -, -⟩ rest
    refine ⟨by rw [List.append_assoc, hkey.skipBlanks_append], ?_⟩
    obtain ⟨c, others, rfl, hc⟩ := hkey.exists_cons
    rintro heq
    obtain rfl : c = '\x7d' := by simpa using heq
    exact absurd hc (by decide)
  cases hspells with
  | @last _ before inside after pair hbefore hspelled hafter =>
    refine ⟨[] ++ (inside ++ after), .last isBlanks_nil hspelled hafter, by simp, fun rest => ?_⟩
    simp only [List.append_assoc, Toml.skipBlanks_append hbefore, List.nil_append]
    exact hpair hspelled _
  | @more _ before inside after others pair pairs hbefore hspelled hafter hothers =>
    refine ⟨[] ++ (inside ++ (after ++ ',' :: others)), .more isBlanks_nil hspelled hafter hothers,
      by simp, fun rest => ?_⟩
    simp only [List.append_assoc, Toml.skipBlanks_append hbefore, List.nil_append]
    exact hpair hspelled _

/-! ## Every spelling of a value -/

mutual

/-- A value is read from each of its texts. -/
theorem value_of_spells {text : List Char} {found : Toml} {depth : ℕ}
    (hspells : Spells maxDepth depth text found) {fuel : ℕ} (hfuel : 2 * text.length ≤ fuel)
    {rest : List Char} (hends : Ends rest) :
    Reader.value fuel depth (text ++ rest) = some (found, rest) := by
  -- The text of a value is not empty, so there is fuel for one step.
  have hne : fuel ≠ 0 := by
    obtain ⟨c, others, rfl, -⟩ := spells_cons hspells
    rw [List.length_cons] at hfuel
    omega
  obtain ⟨fuel, rfl⟩ := Nat.exists_eq_add_one_of_ne_zero hne
  cases hspells with
  | string hstring => exact value_string hstring hends
  | integer hinteger hle hlt => exact value_run (isRun_integer hinteger hle hlt) hends
  | float hfloat => exact value_run (isRun_float hfloat) hends
  | yes => exact value_run isRun_true hends
  | no => exact value_run isRun_false hends
  | moment hmoment => exact value_scalar hmoment.exists_cons (scalar_moment hmoment hends)
  | @array depth inner found hitems =>
    simp only [List.length_cons, List.length_append, List.length_nil] at hfuel
    have hbound : 2 * inner.length + 1 ≤ fuel := by omega
    simpa using value_array (items_of_spells hitems hbound rest)
  | noPairs hblanks =>
    refine value_noPairs ?_
    simp [skipBlanks_append_cons hblanks (by decide : isBlank '\x7d' = false)]
  | @pairs depth inner pairs hpairs happart =>
    simp only [List.length_cons, List.length_append, List.length_nil] at hfuel
    obtain ⟨bare, hbare, hlength, hskip⟩ := hpairs.skipBlanks_append
    have hbound : 2 * bare.length + 1 ≤ fuel := by omega
    have hread := inlinePairs_of_spells hbare hbound rest
    rw [← (hskip _).1] at hread
    simpa using value_pairs (by rw [(hskip _).1]; exact (hskip _).2) hread happart
termination_by 2 * text.length
decreasing_by
  all_goals
    subst_vars
    simp only [List.length_cons, List.length_append, List.length_nil]
    omega

/-- The items of an array are read up to the bracket that closes it. -/
theorem items_of_spells {text : List Char} {found : List Toml} {depth : ℕ}
    (hspells : SpellsItems maxDepth depth text found) {fuel : ℕ}
    (hfuel : 2 * text.length + 1 ≤ fuel) (rest : List Char) :
    Reader.items fuel depth (text ++ ']' :: rest) = some (found, rest) := by
  obtain ⟨fuel, rfl⟩ := Nat.exists_eq_add_one_of_ne_zero (show fuel ≠ 0 by omega)
  cases hspells with
  | none hspace => exact items_none (skipSpace_close hspace (.inr rfl) rest)
  | @last _ before inside after item hbefore hitem hafter =>
    simp only [List.length_append] at hfuel
    have hends : Ends (after ++ ']' :: rest) := ends_space hafter (by decide) rest
    simp only [List.append_assoc]
    exact items_last (skipSpace_spells hbefore hitem _) (head_ne_bracket hitem _)
      (value_of_spells hitem (by omega) hends) (skipSpace_close hafter (.inr rfl) rest)
  | @more _ before inside after others item found hbefore hitem hafter hothers =>
    simp only [List.length_append, List.length_cons] at hfuel
    have hends : Ends (after ++ ',' :: (others ++ ']' :: rest)) := ends_space hafter (by decide) _
    simp only [List.append_assoc, List.cons_append]
    exact items_more (skipSpace_spells hbefore hitem _) (head_ne_bracket hitem _)
      (value_of_spells hitem (by omega) hends) (skipSpace_close hafter (.inl rfl) _)
      (items_of_spells hothers (by omega) rest)
termination_by 2 * text.length + 1

/-- The pairs of an inline table are read up to the brace that closes it. -/
theorem inlinePairs_of_spells {text : List Char} {pairs : List Pair} {depth : ℕ}
    (hspells : SpellsPairs maxDepth depth text pairs) {fuel : ℕ}
    (hfuel : 2 * text.length + 1 ≤ fuel) (rest : List Char) :
    Reader.inlinePairs fuel depth (text ++ '\x7d' :: rest) = some (pairs, rest) := by
  obtain ⟨fuel, rfl⟩ := Nat.exists_eq_add_one_of_ne_zero (show fuel ≠ 0 by omega)
  cases hspells with
  | @last _ before inside after pair hbefore hpair hafter =>
    obtain @⟨_, key, gap, value, _, hkey, hshort, hgap, hvalue⟩ := hpair
    simp only [List.length_append, List.length_cons] at hfuel
    have hends : Ends (after ++ '\x7d' :: rest) := ends_blanks hafter (ends_cons (by decide) rest)
    have hread := value_of_spells hvalue (by omega : 2 * value.length ≤ fuel) hends
    rw [← skipBlanks_spells hgap hvalue] at hread
    simp only [List.append_assoc, List.cons_append]
    exact inlinePairs_last (key_append hbefore hkey hshort ⟨'=', _, rfl, .inl rfl⟩) hread
      (skipBlanks_append_cons hafter (by decide) rest)
  | @more _ before inside after others pair pairs hbefore hpair hafter hothers =>
    obtain @⟨_, key, gap, value, _, hkey, hshort, hgap, hvalue⟩ := hpair
    simp only [List.length_append, List.length_cons] at hfuel
    have hends : Ends (after ++ ',' :: (others ++ '\x7d' :: rest)) :=
      ends_blanks hafter (ends_cons (by decide) _)
    have hread := value_of_spells hvalue (by omega : 2 * value.length ≤ fuel) hends
    rw [← skipBlanks_spells hgap hvalue] at hread
    simp only [List.append_assoc, List.cons_append]
    exact inlinePairs_more (key_append hbefore hkey hshort ⟨'=', _, rfl, .inl rfl⟩) hread
      (skipBlanks_append_cons hafter (by decide) _) (inlinePairs_of_spells hothers (by omega) rest)
termination_by 2 * text.length + 1

end

/-! ## Statements -/

/-- A key and its value are read as a pair. -/
theorem pair_of_spells {pair : Pair} (hspells : SpellsPair maxDepth maxDepth text pair)
    (hends : Ends rest) : Reader.pair (text ++ rest) = some (pair, rest) := by
  obtain @⟨_, key, gap, value, _, hkey, hshort, hgap, hvalue⟩ := hspells
  have hread : Reader.value (2 * (gap ++ (value ++ rest)).length + 2) maxDepth
      (skipBlanks (gap ++ (value ++ rest))) = some (pair.value, rest) := by
    rw [skipBlanks_spells hgap hvalue]
    exact value_of_spells hvalue (by simp; omega) hends
  have hname : Reader.key (key ++ '=' :: (gap ++ (value ++ rest))) =
      some ((pair.path, pair.key), '=' :: (gap ++ (value ++ rest))) :=
    key_append isBlanks_nil hkey hshort ⟨'=', _, rfl, .inl rfl⟩
  simp only [List.append_assoc, List.cons_append]
  rw [Reader.pair, hname]
  simp only [Option.bind_eq_bind, Option.bind_some, hread]
  rfl

/-- A statement begins with a bracket or with a key. -/
theorem SpellsStatement.exists_cons {width : ℕ} {statement : Statement}
    (hspells : SpellsStatement width depth text statement) :
    ∃ c others, text = c :: others ∧ (isBare c = true ∨ c ∈ ['"', '\'', '[']) := by
  cases hspells with
  | pair hpair =>
    obtain ⟨hkey, -, -, -⟩ := hpair
    obtain ⟨c, others, rfl, hc⟩ := hkey.exists_cons
    exact ⟨c, _, rfl, hc.imp_right (by rintro (rfl | rfl) <;> decide)⟩
  | header => exact ⟨'[', _, rfl, by decide⟩
  | doubleHeader => exact ⟨'[', _, rfl, by decide⟩

/-- A statement is read up to the end of its line. -/
theorem statement_of_spells {statement : Statement}
    (hspells : SpellsStatement maxDepth maxDepth text statement) (hends : Ends rest) :
    Reader.statement (text ++ rest) = some (statement, rest) := by
  cases hspells with
  | pair hpair =>
    have hread := pair_of_spells hpair hends
    have hhead : ∀ others, text ++ rest ≠ '[' :: others := by
      obtain ⟨hkey, -, -, -⟩ := hpair
      obtain ⟨c, others, rfl, hc⟩ := hkey.exists_cons
      intro tail heq
      obtain rfl : c = '[' := (List.cons.inj heq).1
      exact absurd hc (by decide)
    rw [Reader.statement, hread]
    · rfl
    · exact fun others => hhead _
    · exact hhead
  | @header before key path name hbefore hkey hshort =>
    have hread : Reader.key (before ++ (key ++ (']' :: rest))) =
      some ((path, name), ']' :: rest) := key_append hbefore hkey hshort ⟨']', _, rfl, .inr rfl⟩
    simp only [List.cons_append, List.append_assoc, List.nil_append]
    rw [Reader.statement, hread]
    · rfl
    · intro others heq
      -- Blanks and keys have no bracket in front.
      cases before with
      | nil =>
        obtain ⟨c, more, rfl, hc⟩ := hkey.exists_cons
        obtain rfl : c = '[' := (List.cons.inj heq).1
        exact absurd hc (by decide)
      | cons d before =>
        obtain rfl : d = '[' := (List.cons.inj heq).1
        exact absurd (hbefore '[' List.mem_cons_self) (by decide)
  | @doubleHeader before key path name hbefore hkey hshort =>
    have hread : Reader.key (before ++ (key ++ (']' :: ']' :: rest))) =
        some ((path, name), ']' :: ']' :: rest) :=
      key_append hbefore hkey hshort ⟨']', _, rfl, .inr rfl⟩
    simp only [List.cons_append, List.append_assoc, List.nil_append]
    rw [Reader.statement, hread]
    rfl

/-! ## Lines -/

/-- A line without a statement is passed over. -/
theorem statements_empty {blanks remark next : List Char} {others : List Statement}
    (hblanks : IsBlanks blanks) (hremark : IsRemark remark) (hends : EndsLine rest next)
    (hnext : Reader.statements fuel next = some others) :
    Reader.statements (fuel + 1) (blanks ++ (remark ++ rest)) = some others := by
  rw [Reader.statements, skipBlanks_remark hblanks hremark hends]
  rcases hremark with rfl | ⟨inside, rfl, hinside⟩
  · rcases hends with ⟨rfl, rfl⟩ | ⟨feed, rfl | rfl, rfl⟩
    · cases fuel with
      | zero => cases hnext
      | succ fuel => exact hnext
    · exact hnext
    · exact hnext
  · simp only [List.cons_append]
    have hskip := endOfLine?_append hblanks (Or.inr ⟨inside, rfl, hinside⟩) hends
    rw [List.cons_append] at hskip
    simp only [hskip, Option.bind_eq_bind, Option.bind_some, hnext]

theorem ends_line {after remark next : List Char} (hafter : IsBlanks after)
    (hremark : IsRemark remark) (hends : EndsLine rest next) :
    Ends (after ++ (remark ++ rest)) := by
  refine ends_blanks hafter ?_
  rcases hremark with rfl | ⟨inside, rfl, -⟩
  · rcases hends with ⟨rfl, -⟩ | ⟨feed, rfl | rfl, rfl⟩
    · intro c hc
      cases hc
    · exact ends_cons (by decide) _
    · exact ends_cons (by decide) _
  · exact ends_cons (by decide) _

/-- A line with a statement is read whole. -/
theorem statements_full {before after remark next : List Char} {statement : Statement}
    {others : List Statement} (hbefore : IsBlanks before)
    (hstatement : SpellsStatement maxDepth maxDepth text statement) (hafter : IsBlanks after)
    (hremark : IsRemark remark) (hends : EndsLine rest next)
    (hnext : Reader.statements fuel next = some others) :
    Reader.statements (fuel + 1) (before ++ (text ++ (after ++ (remark ++ rest)))) =
      some (statement :: others) := by
  have hread := statement_of_spells hstatement (ends_line hafter hremark hends)
  have hskip := endOfLine?_append hafter hremark hends
  obtain ⟨c, more, rfl, hc⟩ := hstatement.exists_cons
  have hblank : isBlank c = false := by
    rcases hc with hbare | hc
    · exact isBlank_eq_false_of_isBare hbare
    · have hall : (['"', '\'', '['].all fun c => !isBlank c) = true := by decide
      simpa using List.all_eq_true.mp hall c hc
  have hne : c ≠ '#' ∧ c ≠ '\n' ∧ c ≠ '\r' := by
    refine ⟨?_, ?_, ?_⟩
    all_goals
      rintro rfl
      exact absurd hc (by decide)
  rw [List.cons_append] at hread ⊢
  rw [Reader.statements, skipBlanks_append_cons hbefore hblank]
  have hfeed : lineFeed? (c :: (more ++ (after ++ (remark ++ rest)))) = none := by
    rw [lineFeed?]
    · exact fun others heq => hne.2.1 (List.cons.inj heq).1
    · exact fun others heq => hne.2.2 (List.cons.inj heq).1
  split
  · rename_i heq
    cases heq
  · rename_i heq
    exact absurd (List.cons.inj heq).1 hne.1
  · simp [hfeed, hread, hskip, hnext]

/-- The lines of a document hold its statements. -/
theorem statements_of_lines {statements : List Statement}
    (hspells : SpellsLines maxDepth maxDepth text statements) (hfuel : text.length < fuel) :
    Reader.statements fuel text = some statements := by
  obtain ⟨fuel, rfl⟩ := Nat.exists_eq_add_one_of_ne_zero (show fuel ≠ 0 by omega)
  induction hspells generalizing fuel with
  | last hline =>
    have hends : EndsLine [] [] := .inl ⟨rfl, rfl⟩
    cases hline with
    | @empty blanks remark hblanks hremark =>
      rcases hremark with rfl | ⟨inside, rfl, hinside⟩
      · have hskip : skipBlanks (blanks ++ []) = [] := skipBlanks_append hblanks []
        rw [Reader.statements, hskip]
        rfl
      · simp only [List.length_append, List.length_cons] at hfuel
        obtain ⟨fuel, rfl⟩ := Nat.exists_eq_add_one_of_ne_zero (show fuel ≠ 0 by omega)
        have hnil : Reader.statements (fuel + 1) [] = some [] := rfl
        have hread := statements_empty hblanks (.inr ⟨inside, rfl, hinside⟩) hends hnil
        rwa [List.append_nil] at hread
    | @full before inside after remark statement hbefore hstatement hafter hremark =>
      obtain ⟨c, others, rfl, -⟩ := hstatement.exists_cons
      simp only [List.length_append, List.length_cons] at hfuel
      obtain ⟨fuel, rfl⟩ := Nat.exists_eq_add_one_of_ne_zero (show fuel ≠ 0 by omega)
      have hnil : Reader.statements (fuel + 1) [] = some [] := rfl
      have hread := statements_full hbefore hstatement hafter hremark hends hnil
      rwa [List.append_nil] at hread
  | @more line feed rest statement statements hline hfeed _ ih =>
    obtain ⟨c, others, rfl, -⟩ := hfeed.exists_cons
    have hends : EndsLine (c :: others ++ rest) rest := .inr ⟨c :: others, hfeed, rfl⟩
    simp only [List.length_append, List.length_cons] at hfuel
    obtain ⟨fuel, rfl⟩ := Nat.exists_eq_add_one_of_ne_zero (show fuel ≠ 0 by omega)
    have hnext := ih fuel (by omega)
    cases hline with
    | empty hblanks hremark =>
      rw [List.append_assoc]
      exact statements_empty hblanks hremark hends hnext
    | full hbefore hstatement hafter hremark =>
      simp only [List.append_assoc]
      exact statements_full hbefore hstatement hafter hremark hends hnext

/-- No line begins with a byte order mark. -/
theorem statements_mark (others : List Char) :
    Reader.statements (fuel + 1) ('\uFEFF' :: others) = none := by
  have hkey : Reader.key ('\uFEFF' :: others) = none := by
    rw [Reader.key, keyParts, skipBlanks_cons (by decide), Lexeme.simpleKey,
      List.takeWhile_cons_of_neg (by decide)]
    rfl
    all_goals simp
  rw [Reader.statements, skipBlanks_cons (by decide)]
  simp [lineFeed?, Reader.statement, Reader.pair, hkey]

/-- The reader finds the statements of a document. -/
theorem statements_of_document {statements : List Statement}
    (hdocument : Document maxDepth maxDepth text statements) :
    Reader.statements ((Reader.skipMark text).length + 1) (Reader.skipMark text) =
      some statements := by
  obtain ⟨lines, rfl | rfl, hlines⟩ := hdocument
  · have hread := statements_of_lines hlines (Nat.lt_succ_self text.length)
    have hmark : Reader.skipMark text = text := by
      rw [Reader.skipMark.eq_def]
      split
      · rw [statements_mark] at hread
        cases hread
      · rfl
    rwa [hmark]
  · exact statements_of_lines hlines (by simp [Reader.skipMark])

end SyscallPolicy.Toml
