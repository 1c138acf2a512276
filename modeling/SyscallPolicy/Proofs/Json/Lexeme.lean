import SyscallPolicy.Json.Spelling

/-!
# Reading the parts of a JSON text

The parts of a text that nest nothing: blanks, the inside of a string, a
number, a word.  Each lemma says that the reader takes exactly the part that
is spelled and leaves what follows.  Where a part has no closing character
of its own, what follows must not go on with it: `NoDigit` and `Ends` say so.
-/

namespace SyscallPolicy.Json

variable {text rest : List Char}

/-! ## Blanks -/

theorem skipBlanks_append {blanks : List Char} (hblanks : IsBlanks blanks) (rest : List Char) :
    skipBlanks (blanks ++ rest) = skipBlanks rest :=
  List.dropWhile_append_of_pos hblanks

theorem skipBlanks_cons {c : Char} (hc : isBlank c = false) (rest : List Char) :
    skipBlanks (c :: rest) = c :: rest := by
  rw [skipBlanks, List.dropWhile_cons_of_neg]
  simp [hc]

theorem skipBlanks_append_cons {blanks : List Char} (hblanks : IsBlanks blanks) {c : Char}
    (hc : isBlank c = false) (rest : List Char) :
    skipBlanks (blanks ++ c :: rest) = c :: rest := by
  rw [skipBlanks_append hblanks, skipBlanks_cons hc]

theorem isBlank_eq_false_of_isDigit {c : Char} (hc : c.isDigit = true) : isBlank c = false := by
  refine Bool.eq_false_iff.mpr fun hblank => ?_
  simp only [isBlank, Bool.or_eq_true, beq_iff_eq] at hblank
  rcases hblank with ((rfl | rfl) | rfl) | rfl <;> simp at hc

theorem isBlanks_nil : IsBlanks [] := by simp [IsBlanks]

/-- Whether a value is over where this text begins. -/
def Ends (rest : List Char) : Prop :=
  ∀ c, rest.head? = some c → isBlank c = true ∨ c = ',' ∨ c = ']' ∨ c = '\x7d'

theorem ends_append_cons {blanks : List Char} (hblanks : IsBlanks blanks) {c : Char}
    (hc : c = ',' ∨ c = ']' ∨ c = '\x7d') : Ends (blanks ++ c :: rest) := by
  intro d hd
  cases blanks with
  | nil =>
    cases hd
    exact Or.inr hc
  | cons first others =>
    cases hd
    exact Or.inl (hblanks d List.mem_cons_self)

/-! ## Strings -/

theorem symbols_unit {a b c d : Char} {unit : Nat} (hunit : unit? a b c d = some unit) :
    symbols ('\\' :: 'u' :: a :: b :: c :: d :: rest) =
      (symbols rest).map fun (read, rest) => (Symbol.ofUnit unit :: read, rest) := by
  rw [symbols, hunit]
  cases symbols rest <;> rfl

theorem symbols_short {letter c : Char} (hshort : shortEscape? letter = some c) :
    symbols ('\\' :: letter :: rest) =
      (symbols rest).map fun (read, rest) => (.char c :: read, rest) := by
  have hletter : letter ≠ 'u' := by
    rintro rfl
    simp [shortEscape?] at hshort
  rw [symbols]
  · rw [hshort]
    cases symbols rest <;> rfl
  · simp [hletter]

theorem symbols_plain {c : Char} (hplain : isPlain c = true) :
    symbols (c :: rest) = (symbols rest).map fun (read, rest) => (.char c :: read, rest) := by
  have hc : c ≠ '"' ∧ c ≠ '\\' := by
    simp only [isPlain, Bool.and_eq_true, decide_eq_true_eq] at hplain
    exact hplain.1
  rw [symbols]
  · rw [if_neg hc.1, if_pos hplain]
  · simp [hc.2]
  · simp [hc.2]

/-- The reader takes the inside of a string up to the quote that closes it. -/
theorem symbols_of_spells {inside : List Char} {read : List Symbol}
    (hspells : SpellsSymbols inside read) (rest : List Char) :
    symbols (inside ++ '"' :: rest) = some (read, rest) := by
  induction hspells with
  | nil => simp [symbols]
  | plain hplain _ ih => rw [List.cons_append, symbols_plain hplain, ih]; rfl
  | short hshort _ ih =>
    rw [List.cons_append, List.cons_append, symbols_short hshort, ih]
    rfl
  | unit hunit _ ih =>
    simp only [List.cons_append]
    rw [symbols_unit hunit, ih]
    rfl

/-! ## Numbers -/

/-- Whether no digit goes on where this text begins. -/
def NoDigit (rest : List Char) : Prop :=
  ∀ c, rest.head? = some c → c.isDigit = false

theorem noDigit_cons {c : Char} (hc : c.isDigit = false) : NoDigit (c :: rest) := by
  intro d hd
  cases hd
  exact hc

/-- What ends a value is none of the characters that go on with a number. -/
theorem Ends.head_ne (hends : Ends rest) {c : Char} (hc : rest.head? = some c) :
    c.isDigit = false ∧ c ≠ '.' ∧ c ≠ 'e' ∧ c ≠ 'E' := by
  rcases hends c hc with hblank | rfl | rfl | rfl
  · simp only [isBlank, Bool.or_eq_true, beq_iff_eq] at hblank
    rcases hblank with ((rfl | rfl) | rfl) | rfl <;> decide
  · decide
  · decide
  · decide

theorem digits?_append {digits : List Char} (hdigits : IsDigits digits) (hrest : NoDigit rest) :
    digits? (digits ++ rest) = some (digits, rest) := by
  have htake : rest.takeWhile Char.isDigit = [] := by
    cases rest with
    | nil => rfl
    | cons c rest => rw [List.takeWhile_cons_of_neg]; simp [hrest c rfl]
  have hdrop : rest.dropWhile Char.isDigit = rest := by
    cases rest with
    | nil => rfl
    | cons c rest => rw [List.dropWhile_cons_of_neg]; simp [hrest c rfl]
  rw [digits?, List.takeWhile_append_of_pos hdigits.2, List.dropWhile_append_of_pos hdigits.2,
    htake, hdrop, List.append_nil]
  obtain ⟨c, others, rfl⟩ := List.exists_cons_of_ne_nil hdigits.1
  rfl

theorem integer?_append {whole : List Char} (hwhole : IsWhole whole) (hrest : NoDigit rest) :
    integer? (whole ++ rest) = some (whole, rest) := by
  rcases hwhole with rfl | ⟨hdigits, hhead⟩
  · rfl
  · obtain ⟨c, others, rfl⟩ := List.exists_cons_of_ne_nil hdigits.1
    have hc : c ≠ '0' := fun heq => hhead (by simp [heq])
    rw [List.cons_append, integer?]
    · exact digits?_append hdigits hrest
    · simp [hc]

theorem fraction?_append {fraction : List Char} (hfraction : IsFraction fraction)
    (hrest : NoDigit rest) (hdot : rest.head? ≠ some '.') :
    fraction? (fraction ++ rest) = some (fraction, rest) := by
  rcases hfraction with rfl | ⟨digits, rfl, hdigits⟩
  · rw [List.nil_append, fraction?]
    rintro others rfl
    exact hdot rfl
  · rw [List.cons_append, fraction?, digits?_append hdigits hrest]
    rfl

theorem exponentSign_append {sign digits : List Char}
    (hsign : sign = [] ∨ sign = ['+'] ∨ sign = ['-']) (hdigits : IsDigits digits) :
    exponentSign (sign ++ digits ++ rest) = (sign, digits ++ rest) := by
  rcases hsign with rfl | rfl | rfl
  · obtain ⟨c, others, rfl⟩ := List.exists_cons_of_ne_nil hdigits.1
    have hc := hdigits.2 c List.mem_cons_self
    rw [List.nil_append, List.cons_append, exponentSign]
    · intro tail heq
      cases heq
      simp at hc
    · intro tail heq
      cases heq
      simp at hc
  · rfl
  · rfl

theorem exponent?_append {exponent : List Char} (hexponent : IsExponent exponent)
    (hends : Ends rest) : exponent? (exponent ++ rest) = some (exponent, rest) := by
  rcases hexponent with rfl | ⟨mark, sign, digits, rfl, hmark, hsign, hdigits⟩
  · cases rest with
    | nil => rfl
    | cons c rest =>
      obtain ⟨-, -, hsmall, hlarge⟩ := hends.head_ne rfl
      simp [exponent?, hsmall, hlarge]
  · have hrest : NoDigit rest := fun c hc => (hends.head_ne hc).1
    rw [List.cons_append, exponent?, if_pos hmark, exponentSign_append hsign hdigits]
    simp only [digits?_append hdigits hrest]
    rfl

/-- What follows the fraction of a number goes on with neither the fraction
nor the digits before it. -/
theorem exponent_head_ne {exponent : List Char} (hexponent : IsExponent exponent)
    (hends : Ends rest) {c : Char} (hc : (exponent ++ rest).head? = some c) :
    c.isDigit = false ∧ c ≠ '.' := by
  rcases hexponent with rfl | ⟨mark, sign, digits, rfl, hmark, -, -⟩
  · exact ⟨(hends.head_ne hc).1, (hends.head_ne hc).2.1⟩
  · cases hc
    rcases hmark with rfl | rfl <;> decide

theorem noDigit_fraction {fraction : List Char} (hfraction : IsFraction fraction)
    (hrest : NoDigit rest) : NoDigit (fraction ++ rest) := by
  rcases hfraction with rfl | ⟨digits, rfl, -⟩
  · exact hrest
  · exact noDigit_cons (by decide)

theorem isWhole_cons {whole : List Char} (hwhole : IsWhole whole) :
    ∃ c others, whole = c :: others ∧ c.isDigit = true := by
  rcases hwhole with rfl | ⟨hdigits, -⟩
  · exact ⟨'0', [], rfl, by decide⟩
  · obtain ⟨c, others, rfl⟩ := List.exists_cons_of_ne_nil hdigits.1
    exact ⟨c, others, rfl, hdigits.2 c List.mem_cons_self⟩

theorem unsigned?_append {whole fraction exponent : List Char} (hwhole : IsWhole whole)
    (hfraction : IsFraction fraction) (hexponent : IsExponent exponent) (hends : Ends rest) :
    unsigned? (whole ++ fraction ++ exponent ++ rest) =
      some (whole ++ fraction ++ exponent, rest) := by
  have hexp : NoDigit (exponent ++ rest) := fun c hc => (exponent_head_ne hexponent hends hc).1
  have hdot : (exponent ++ rest).head? ≠ some '.' :=
    fun hc => (exponent_head_ne hexponent hends hc).2 rfl
  simp only [unsigned?, List.append_assoc, Option.bind_eq_bind, Option.pure_def,
    integer?_append hwhole (noDigit_fraction hfraction hexp), Option.bind_some,
    fraction?_append hfraction hexp hdot, exponent?_append hexponent hends]

/-- A number is taken whole when what follows does not go on with it. -/
theorem number?_append {literal : List Char} (hnumber : IsNumber literal) (hends : Ends rest) :
    number? (literal ++ rest) = some (literal, rest) := by
  obtain ⟨sign, whole, fraction, exponent, rfl, hsign, hwhole, hfraction, hexponent⟩ := hnumber
  have hunsigned := unsigned?_append hwhole hfraction hexponent hends
  rcases hsign with rfl | rfl
  · obtain ⟨c, others, rfl, hc⟩ := isWhole_cons hwhole
    rw [List.nil_append, number?]
    · exact hunsigned
    · intro tail heq
      cases heq
      simp at hc
  · simp only [List.cons_append, List.nil_append, number?]
    rw [hunsigned]
    rfl

/-! ## Words and numbers -/

/-- How a number begins. -/
theorem isNumber_cons {literal : List Char} (hnumber : IsNumber literal) :
    ∃ c others, literal = c :: others ∧ (c = '-' ∨ c.isDigit = true) := by
  obtain ⟨sign, whole, fraction, exponent, rfl, rfl | rfl, hwhole, -, -⟩ := hnumber
  · obtain ⟨c, others, rfl, hc⟩ := isWhole_cons hwhole
    exact ⟨c, _, rfl, Or.inr hc⟩
  · exact ⟨'-', _, rfl, Or.inl rfl⟩

theorem scalar?_number {literal : List Char} (hnumber : IsNumber literal) (hends : Ends rest) :
    scalar? (literal ++ rest) = some (.number literal, rest) := by
  obtain ⟨c, others, rfl, hc⟩ := isNumber_cons hnumber
  rw [scalar?]
  · rw [number?_append hnumber hends]
    rfl
  all_goals
    intro tail heq
    rw [(List.cons.inj heq).1] at hc
    simp at hc

end SyscallPolicy.Json
