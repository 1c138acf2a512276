import Mathlib.Algebra.Order.Field.Power
import Mathlib.Tactic.NormNum
import SyscallPolicy.Proofs.Toml.Lexeme

/-!
# Reading numbers

An integer is read with its value, if this is of 64 bits (`integer?_of_spells`).  A float is
accepted exactly if it rounds to a binary64 number or is negative (`isFloat_of_spells`).  The
reader decides that by the number of places, where it can; `overflows_eq_false_iff` says that
these short cuts are right.
-/

namespace SyscallPolicy.Toml

open Scalar

variable {text digits rest : List Char} {negative : Bool}

/-! ## Digits -/

theorem SpellsDigits.exists_cons {isDigit : Char → Bool}
    (hspells : SpellsDigits isDigit text digits) :
    ∃ c others, text = c :: others ∧ isDigit c = true := by
  cases hspells with
  | last hc => exact ⟨_, _, rfl, hc⟩
  | next hc => exact ⟨_, _, rfl, hc⟩
  | spaced hc => exact ⟨_, _, rfl, hc⟩

theorem SpellsDigits.eq_of_mem {isDigit : Char → Bool} (hspells : SpellsDigits isDigit text digits)
    {c : Char} (hc : c ∈ text) : isDigit c = true ∨ c = '_' := by
  induction hspells with
  | last hdigit => exact Or.inl (by rwa [List.mem_singleton.mp hc])
  | next hdigit _ ih =>
    rcases List.mem_cons.mp hc with rfl | hc
    · exact Or.inl hdigit
    · exact ih hc
  | spaced hdigit _ ih =>
    rcases List.mem_cons.mp hc with rfl | hc
    · exact Or.inl hdigit
    · rcases List.mem_cons.mp hc with rfl | hc
      · exact Or.inr rfl
      · exact ih hc

theorem digits?_of_spells {isDigit : Char → Bool} (hmark : isDigit '_' = false)
    (hspells : SpellsDigits isDigit text digits) : digits? isDigit text = some digits := by
  induction hspells with
  | last hdigit => rw [digits?, if_pos hdigit]
  | @next c text digits hdigit hrest ih =>
    obtain ⟨d, others, rfl, hd⟩ := hrest.exists_cons
    have hne : d ≠ '_' := by
      rintro rfl
      rw [hmark] at hd
      cases hd
    rw [digits?]
    · rw [if_pos hdigit, ih]
      rfl
    · simp
    · rintro tail heq
      exact hne (List.cons.inj heq).1
  | spaced hdigit _ ih =>
    rw [digits?, if_pos hdigit, ih]
    rfl

theorem SpellsWhole.exists_cons (hspells : SpellsWhole text digits) :
    ∃ c others, text = c :: others ∧ c.isDigit = true := by
  cases hspells with
  | zero => exact ⟨'0', [], rfl, by decide⟩
  | digits hdigits => exact hdigits.exists_cons

theorem SpellsWhole.eq_of_mem (hspells : SpellsWhole text digits) {c : Char} (hc : c ∈ text) :
    c.isDigit = true ∨ c = '_' := by
  cases hspells with
  | zero => exact Or.inl (by rw [List.mem_singleton.mp hc]; decide)
  | digits hdigits => exact hdigits.eq_of_mem hc

theorem decimalDigits?_of_spells (hspells : SpellsWhole text digits) :
    decimalDigits? text = some digits := by
  cases hspells with
  | zero => rfl
  | digits hdigits hhead =>
    have hread := digits?_of_spells (by decide) hdigits
    obtain ⟨c, others, rfl, -⟩ := hdigits.exists_cons
    have hc : c ≠ '0' := by simpa using hhead
    rw [decimalDigits?]
    · exact hread
    · rintro heq
      exact hc (List.cons.inj heq).1
    · rintro tail heq
      exact hc (List.cons.inj heq).1

/-- A sign is split off if what follows begins with none. -/
theorem sign_append {mark : List Char} (hspells : SpellsSign mark negative)
    (hrest : ∀ c, rest.head? = some c → c ≠ '+' ∧ c ≠ '-') :
    Scalar.sign (mark ++ rest) = (negative, rest) := by
  cases hspells with
  | none =>
    rw [List.nil_append, Scalar.sign]
    · rintro others rfl
      exact (hrest _ rfl).1 rfl
    · rintro others rfl
      exact (hrest _ rfl).2 rfl
  | plus => rfl
  | minus => rfl

theorem ne_sign_of_isDigit {c : Char} (hc : c.isDigit = true) : c ≠ '+' ∧ c ≠ '-' := by
  constructor
  all_goals
    rintro rfl
    exact absurd hc (by decide)

theorem SpellsDigits.head_ne_sign (hspells : SpellsDigits Char.isDigit text digits) {c : Char}
    (hc : (text ++ rest).head? = some c) : c ≠ '+' ∧ c ≠ '-' := by
  obtain ⟨d, others, rfl, hd⟩ := hspells.exists_cons
  cases hc
  exact ne_sign_of_isDigit hd

theorem SpellsWhole.head_ne_sign (hspells : SpellsWhole text digits) {c : Char}
    (hc : (text ++ rest).head? = some c) : c ≠ '+' ∧ c ≠ '-' := by
  obtain ⟨d, others, rfl, hd⟩ := hspells.exists_cons
  cases hc
  exact ne_sign_of_isDigit hd

/-! ## Integers -/

/-- A decimal number that begins with a zero is this zero. -/
theorem SpellsWhole.ne_zero_cons {mark : List Char} (hsign : SpellsSign mark negative)
    (hwhole : SpellsWhole text digits) (c : Char) : mark ++ text ≠ '0' :: c :: rest := by
  intro heq
  cases hsign with
  | none =>
    rw [List.nil_append] at heq
    cases hwhole with
    | zero => simp at heq
    | digits _ hhead => exact hhead (by rw [heq]; rfl)
  | plus => exact absurd (List.cons.inj heq).1 (by decide)
  | minus => exact absurd (List.cons.inj heq).1 (by decide)

theorem integer?_of_spells {value : ℤ} (hspells : SpellsInteger text value)
    (hle : -integerBound ≤ value) (hlt : value < integerBound) : integer? text = some value := by
  have hrange : inRange value = some value := by
    simp only [inRange, hle, hlt, and_self, if_true]
  cases hspells with
  | @decimal mark whole digits negative hsign hwhole =>
    have hsplit : Scalar.sign (mark ++ whole) = (negative, whole) :=
      sign_append hsign fun c hc => hwhole.head_ne_sign (by rwa [List.append_nil])
    rw [integer?]
    · rw [hsplit, decimalDigits?_of_spells hwhole, Option.bind_eq_bind, Option.bind_some]
      exact hrange
    all_goals
      intro others heq
      exact hwhole.ne_zero_cons hsign _ heq
  | hexadecimal hdigits =>
    rw [integer?, digits?_of_spells (by decide) hdigits, Option.bind_eq_bind, Option.bind_some,
      hrange]
  | octal hdigits =>
    rw [integer?, digits?_of_spells (by decide) hdigits, Option.bind_eq_bind, Option.bind_some,
      hrange]
  | binary hdigits =>
    rw [integer?, digits?_of_spells (by decide) hdigits, Option.bind_eq_bind, Option.bind_some,
      hrange]

/-! ## Floats -/

theorem isExponentMark_eq_false {c : Char} (hc : c.isDigit = true ∨ c = '_') :
    isExponentMark c = false := by
  refine Bool.eq_false_iff.mpr fun hmark => ?_
  simp only [isExponentMark, Bool.or_eq_true, beq_iff_eq] at hmark
  rcases hmark with rfl | rfl <;> exact absurd hc (by decide)

theorem exponent?_of_spells {exponent : ℤ} (hspells : SpellsExponent text exponent)
    (hne : text ≠ []) : exponent? text = some exponent := by
  cases hspells with
  | none => exact absurd rfl hne
  | @some mark sign text digits negative hmark hsign hdigits =>
    have hsplit : Scalar.sign (sign ++ text) = (negative, text) :=
      sign_append hsign fun c hc => hdigits.head_ne_sign (by rwa [List.append_nil])
    simp only [exponent?, hsplit, digits?_of_spells (by decide) hdigits, Option.bind_eq_bind,
      Option.bind_some]
    rfl

/-! ### The largest float -/

theorem ten_pow_le_of_ne_zero {value : ℕ} (hvalue : value ≠ 0) :
    10 ^ ((Nat.toDigits 10 value).length - 1) ≤ value := by
  by_contra hlt
  have hpos : 0 < (Nat.toDigits 10 value).length := Nat.length_toDigits_pos
  rcases Nat.eq_zero_or_pos ((Nat.toDigits 10 value).length - 1) with hzero | hplaces
  · rw [hzero] at hlt
    omega
  · have hle := (Nat.length_toDigits_le_iff (by decide) hplaces).mpr (Nat.not_le.mp hlt)
    omega

theorem lt_ten_pow (value : ℕ) : value < 10 ^ (Nat.toDigits 10 value).length :=
  (Nat.length_toDigits_le_iff (by decide) Nat.length_toDigits_pos).mp le_rfl

/-- A number with many places is large. -/
theorem ten_pow_le_mul {value cut : ℕ} {exponent : ℤ} (hvalue : value ≠ 0)
    (hlarge : (cut : ℤ) < exponent + (Nat.toDigits 10 value).length) :
    (10 : ℚ) ^ cut ≤ value * 10 ^ exponent := by
  have hpos : (0 : ℚ) < 10 ^ exponent := by positivity
  have hle : (10 : ℚ) ^ ((Nat.toDigits 10 value).length - 1) ≤ value := by
    exact_mod_cast ten_pow_le_of_ne_zero hvalue
  have hplaces : 0 < (Nat.toDigits 10 value).length := Nat.length_toDigits_pos
  calc (10 : ℚ) ^ cut
      = 10 ^ (cut : ℤ) := (zpow_natCast 10 cut).symm
    _ ≤ 10 ^ (((Nat.toDigits 10 value).length - 1 : ℕ) + exponent) :=
        zpow_le_zpow_right₀ (by norm_num) (by omega)
    _ = 10 ^ ((Nat.toDigits 10 value).length - 1) * 10 ^ exponent := by
        rw [zpow_add₀ (by norm_num), zpow_natCast]
    _ ≤ value * 10 ^ exponent := mul_le_mul_of_nonneg_right hle hpos.le

/-- A number with few places is below one. -/
theorem mul_lt_one {value : ℕ} {exponent : ℤ}
    (hsmall : exponent + (Nat.toDigits 10 value).length < 0) : (value : ℚ) * 10 ^ exponent < 1 := by
  have hpos : (0 : ℚ) < 10 ^ exponent := by positivity
  have hlt : (value : ℚ) < 10 ^ (Nat.toDigits 10 value).length := by
    exact_mod_cast lt_ten_pow value
  calc (value : ℚ) * 10 ^ exponent
      < 10 ^ (Nat.toDigits 10 value).length * 10 ^ exponent := mul_lt_mul_of_pos_right hlt hpos
    _ = 10 ^ ((Nat.toDigits 10 value).length + exponent) := by
        rw [zpow_add₀ (by norm_num), zpow_natCast]
    _ ≤ 10 ^ (0 : ℤ) := zpow_le_zpow_right₀ (by norm_num) (by omega)
    _ = 1 := zpow_zero 10

/-- The number of places decides early, where it can, whether a number is below a limit. -/
theorem decideBeyond_eq_false_iff {value limit cut : ℕ} {exponent : ℤ} (hone : 1 ≤ limit)
    (hcut : limit < 10 ^ cut) :
    (if value = 0 then false
      else if exponent + (Nat.toDigits 10 value).length > cut then true
      else if exponent + (Nat.toDigits 10 value).length < 0 then false
      else if 0 ≤ exponent then decide (limit ≤ value * Nat.pow 10 exponent.toNat)
      else decide (limit * Nat.pow 10 (-exponent).toNat ≤ value)) = false ↔
    (value : ℚ) * 10 ^ exponent < limit := by
  have honeCast : (1 : ℚ) ≤ limit := by exact_mod_cast hone
  have hcutCast : (limit : ℚ) < 10 ^ cut := by exact_mod_cast hcut
  split_ifs with hvalue hover hunder hsign
  · rw [hvalue, Nat.cast_zero, zero_mul]
    exact iff_of_true rfl (one_pos.trans_le honeCast)
  · exact iff_of_false (by simp) (not_lt.mpr (hcutCast.le.trans (ten_pow_le_mul hvalue hover)))
  · exact iff_of_true rfl ((mul_lt_one hunder).trans_le honeCast)
  · obtain ⟨count, rfl⟩ := Int.eq_ofNat_of_zero_le hsign
    rw [decide_eq_false_iff_not, Nat.not_le, Int.toNat_natCast, zpow_natCast]
    norm_cast
  · obtain ⟨count, hcount⟩ := Int.eq_ofNat_of_zero_le (show 0 ≤ -exponent by omega)
    have hpos : (0 : ℚ) < 10 ^ count := by positivity
    rw [decide_eq_false_iff_not, Nat.not_le, hcount, Int.toNat_natCast,
      show exponent = -(count : ℤ) by omega, zpow_neg, zpow_natCast, ← div_eq_mul_inv,
      div_lt_iff₀ hpos]
    norm_cast

/-- A decimal number overflows if and only if it does not round to a binary64 number. -/
theorem overflows_eq_false_iff {exponent : ℤ} :
    overflows digits exponent = false ↔ IsBinary64 digits exponent := by
  have hone : 1 ≤ binary64Limit := by decide +kernel
  have hcut : binary64Limit < 10 ^ 400 := by decide +kernel
  rw [overflows, ← binary64Limit]
  exact @decideBeyond_eq_false_iff _ _ 400 exponent hone hcut

/-! ### Words and decimal floats -/

theorem sign_word {mark word : List Char} (hspells : SpellsSign mark negative)
    (hword : word = ['i', 'n', 'f'] ∨ word = ['n', 'a', 'n']) :
    Scalar.sign (mark ++ word) = (negative, word) := by
  apply sign_append hspells
  intro c hc
  rcases hword with rfl | rfl
  · cases hc
    decide
  · cases hc
    decide

theorem isFloat_word {mark word : List Char} (hspells : SpellsSign mark negative)
    (hword : word = ['i', 'n', 'f'] ∨ word = ['n', 'a', 'n']) :
    isFloat (mark ++ word) = true := by
  rw [isFloat, sign_word hspells hword]
  simp only [if_pos hword]

/-- The parts into which the reader cuts a decimal number without its sign. -/
structure IsCut (body whole fraction power : List Char) : Prop where
  ne_word : ¬ (body = ['i', 'n', 'f'] ∨ body = ['n', 'a', 'n'])
  power_eq : body.dropWhile (fun c => !isExponentMark c) = power
  whole_eq : (body.takeWhile fun c => !isExponentMark c).takeWhile (· != '.') = whole
  fraction_eq : (body.takeWhile fun c => !isExponentMark c).dropWhile (· != '.') = fraction

theorem SpellsFraction.eq_of_mem (hspells : SpellsFraction text digits) {c : Char}
    (hc : c ∈ text) : c = '.' ∨ c.isDigit = true ∨ c = '_' := by
  cases hspells with
  | none => cases hc
  | some hdigits =>
    rcases List.mem_cons.mp hc with rfl | hc
    · exact Or.inl rfl
    · exact Or.inr (hdigits.eq_of_mem hc)

theorem isCut_of_spells {whole fraction places power : List Char} {exponent : ℤ}
    (hwhole : SpellsWhole whole digits) (hfraction : SpellsFraction fraction places)
    (hpower : SpellsExponent power exponent) :
    IsCut (whole ++ (fraction ++ power)) whole fraction power := by
  have hmantissa : ∀ c ∈ whole ++ fraction, (!isExponentMark c) = true := by
    intro c hc
    rw [Bool.not_eq_true']
    rcases List.mem_append.mp hc with hc | hc
    · exact isExponentMark_eq_false (hwhole.eq_of_mem hc)
    · rcases hfraction.eq_of_mem hc with rfl | hc
      · decide
      · exact isExponentMark_eq_false hc
  have hhead : ∀ c, power.head? = some c → (!isExponentMark c) = false := by
    intro c hc
    cases hpower with
    | none => cases hc
    | some hmark =>
      cases hc
      rcases hmark with rfl | rfl <;> decide
  have hpoint : ∀ c ∈ whole, (c != '.') = true := by
    intro c hc
    rw [bne_iff_ne]
    rintro rfl
    exact absurd (hwhole.eq_of_mem hc) (by decide)
  have hfractionHead : ∀ c, fraction.head? = some c → (c != '.') = false := by
    intro c hc
    cases hfraction with
    | none => cases hc
    | some => cases hc; decide
  have htake := takeWhile_append_rest hmantissa hhead
  have hdrop := dropWhile_append_rest hmantissa hhead
  rw [← List.append_assoc]
  refine ⟨?_, hdrop, ?_, ?_⟩
  · obtain ⟨c, others, rfl, hc⟩ := hwhole.exists_cons
    rintro (heq | heq)
    all_goals
      obtain rfl := (List.cons.inj heq).1
      exact absurd hc (by decide)
  · rw [htake, takeWhile_append_rest hpoint hfractionHead]
  · rw [htake, dropWhile_append_rest hpoint hfractionHead]

theorem isFloat_of_spells (hspells : SpellsFloat text) : isFloat text = true := by
  cases hspells with
  | infinity hsign => exact isFloat_word hsign (Or.inl rfl)
  | notNumber hsign => exact isFloat_word hsign (Or.inr rfl)
  | @decimal mark whole digits fraction places power negative exponent hsign hwhole hfraction
      hpower hlong hfits =>
    have hsplit : Scalar.sign (mark ++ (whole ++ (fraction ++ power))) = _ :=
      sign_append hsign fun c hc => hwhole.head_ne_sign hc
    have hcut := isCut_of_spells hwhole hfraction hpower
    have hokay : (negative || !overflows (digits ++ places) (exponent - places.length)) = true := by
      rcases hfits with hnegative | hfits
      · rw [hnegative, Bool.true_or]
      · rw [overflows_eq_false_iff.mpr hfits, Bool.not_false, Bool.or_true]
    rw [isFloat, hsplit]
    simp only [if_neg hcut.ne_word, hcut.power_eq, hcut.whole_eq, hcut.fraction_eq,
      decimalDigits?_of_spells hwhole]
    cases hfraction with
    | none =>
      have hne : power ≠ [] := by simpa using hlong
      obtain ⟨c, others, rfl⟩ := List.exists_cons_of_ne_nil hne
      simp only [exponent?_of_spells hpower hne]
      simpa using hokay
    | some hdigits =>
      have hexponent : (if power = [] then some 0 else exponent? power) = some exponent := by
        by_cases hnone : power = []
        · rw [if_pos hnone]
          cases hpower with
          | none => rfl
          | some => cases hnone
        · rw [if_neg hnone, exponent?_of_spells hpower hnone]
      simp only [digits?_of_spells (by decide) hdigits, hexponent]
      exact hokay

end SyscallPolicy.Toml
