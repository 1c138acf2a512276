import SyscallPolicy.Proofs.Toml.Number

/-!
# Reading numbers, words and moments apart

What a run of letters, digits and signs stands for.  The kinds are told apart by how the
first digits end: those of a date or a time in a hyphen or a colon, and those of a number
never (`GoesOn`).  A run is read whole where a value is over (`scalar_append`), and so is a
date with a time behind a space (`scalar_moment`).
-/

namespace SyscallPolicy.Toml

open Scalar

variable {text digits rest : List Char} {negative : Bool}

/-! ## Moments -/

theorem two?_twoDigits {value : ℕ} (hvalue : value < 100) :
    two? (twoDigits value) = some value := by
  revert value
  decide

theorem daysIn_le (year month : ℕ) : daysIn year month ≤ 31 := by
  unfold daysIn
  split_ifs <;> decide

theorem isDate_of_spells (hspells : SpellsDate text) : isDate text = true := by
  cases hspells with
  | @day century year month day hcentury hyear hmonth hmonthLe hday hdayLe =>
    have hdays := daysIn_le (century * 100 + year) month
    have hdayLt : day < 100 := by omega
    have hread := And.intro (two?_twoDigits hcentury) (two?_twoDigits hyear)
    have hreadDay := And.intro (two?_twoDigits (show month < 100 by omega)) (two?_twoDigits hdayLt)
    simp only [twoDigits] at hread hreadDay
    simp only [twoDigits, List.cons_append, List.nil_append, isDate, hread.1, hread.2, hreadDay.1,
      hreadDay.2]
    simp [hmonth, hmonthLe, hday, hdayLe]

theorem isHourMinute_twoDigits {hour minute : ℕ} (hhour : hour ≤ 23) (hminute : minute ≤ 59) :
    isHourMinute (twoDigits hour ++ ':' :: twoDigits minute) = true := by
  have hread := And.intro (two?_twoDigits (show hour < 100 by omega))
    (two?_twoDigits (show minute < 100 by omega))
  simp only [twoDigits] at hread
  simp only [twoDigits, List.cons_append, List.nil_append, isHourMinute, hread.1, hread.2]
  simp [hhour, hminute]

theorem isSecondFraction_of_spells (hfraction : IsSecondFraction text) :
    isSecondFraction text = true := by
  rcases hfraction with rfl | ⟨digits, rfl, hne, hdigits⟩
  · rfl
  · simp only [isSecondFraction, Bool.and_eq_true, Bool.not_eq_true', List.all_eq_true]
    exact ⟨by simpa using hne, hdigits⟩

theorem isTime_of_spells (hspells : SpellsTime text) : isTime text = true := by
  cases hspells with
  | @time hour minute second fraction hhour hminute hsecond hfraction =>
    have hfront := isHourMinute_twoDigits hhour hminute
    have hread := two?_twoDigits (show second < 100 by omega)
    simp only [twoDigits] at hread
    simp only [twoDigits, List.cons_append, List.nil_append] at hfront
    simp only [twoDigits, List.cons_append, List.nil_append, isTime, List.take_succ_cons,
      List.take_zero, List.drop_succ_cons, List.drop_zero, hfront, hread,
      isSecondFraction_of_spells hfraction]
    simpa using hsecond

theorem isOffset_of_spells (hspells : SpellsOffset text) : isOffset text = true := by
  cases hspells with
  | none => rfl
  | zero hmark => rcases hmark with rfl | rfl <;> rfl
  | hours hmark hhour hminute =>
    rcases hmark with rfl | rfl
    · exact isHourMinute_twoDigits hhour hminute
    · exact isHourMinute_twoDigits hhour hminute

theorem isDigit_of_mem_twoDigits {value : ℕ} (hvalue : value < 100) {c : Char}
    (hc : c ∈ twoDigits value) : c.isDigit = true := by
  have hdigits : ∀ value < 100, (twoDigits value).all Char.isDigit = true := by decide
  exact List.all_eq_true.mp (hdigits value hvalue) c hc

theorem SpellsTime.eq_of_mem (hspells : SpellsTime text) {c : Char} (hc : c ∈ text) :
    c.isDigit = true ∨ c = ':' ∨ c = '.' := by
  cases hspells with
  | @time hour minute second fraction hhour hminute hsecond hfraction =>
    simp only [List.mem_append, List.mem_cons] at hc
    rcases hc with hc | rfl | hc | rfl | hc | hc
    · exact Or.inl (isDigit_of_mem_twoDigits (by omega) hc)
    · exact Or.inr (Or.inl rfl)
    · exact Or.inl (isDigit_of_mem_twoDigits (by omega) hc)
    · exact Or.inr (Or.inl rfl)
    · exact Or.inl (isDigit_of_mem_twoDigits (by omega) hc)
    · rcases hfraction with rfl | ⟨digits, rfl, -, hdigits⟩
      · cases hc
      · rcases List.mem_cons.mp hc with rfl | hc
        · exact Or.inr (Or.inr rfl)
        · exact Or.inl (hdigits c hc)

theorem SpellsDate.eq_of_mem (hspells : SpellsDate text) {c : Char} (hc : c ∈ text) :
    c.isDigit = true ∨ c = '-' := by
  cases hspells with
  | @day century year month day hcentury hyear hmonth hmonthLe hday hdayLe =>
    have hdays := daysIn_le (century * 100 + year) month
    simp only [List.mem_append, List.mem_cons] at hc
    rcases hc with (hc | hc) | rfl | hc | rfl | hc
    · exact Or.inl (isDigit_of_mem_twoDigits hcentury hc)
    · exact Or.inl (isDigit_of_mem_twoDigits hyear hc)
    · exact Or.inr rfl
    · exact Or.inl (isDigit_of_mem_twoDigits (by omega) hc)
    · exact Or.inr rfl
    · exact Or.inl (isDigit_of_mem_twoDigits (by omega) hc)

theorem SpellsOffset.eq_of_mem (hspells : SpellsOffset text) {c : Char} (hc : c ∈ text) :
    isOffsetMark c = true ∨ c.isDigit = true ∨ c = ':' := by
  cases hspells with
  | none => cases hc
  | zero hmark =>
    rw [List.mem_singleton.mp hc]
    rcases hmark with rfl | rfl <;> decide
  | hours hmark hhour hminute =>
    simp only [List.mem_append, List.mem_cons] at hc
    rcases hc with rfl | hc | rfl | hc
    · rcases hmark with rfl | rfl <;> decide
    · exact Or.inr (Or.inl (isDigit_of_mem_twoDigits (by omega) hc))
    · exact Or.inr (Or.inr rfl)
    · exact Or.inr (Or.inl (isDigit_of_mem_twoDigits (by omega) hc))

theorem isZonedTime_of_spells {time offset : List Char} (htime : SpellsTime time)
    (hoffset : SpellsOffset offset) : isZonedTime (time ++ offset) = true := by
  have hinside : ∀ c ∈ time, (!isOffsetMark c) = true := by
    intro c hc
    rw [Bool.not_eq_true']
    refine Bool.eq_false_iff.mpr fun hmark => ?_
    simp only [isOffsetMark, Bool.or_eq_true, beq_iff_eq] at hmark
    rcases hmark with ((rfl | rfl) | rfl) | rfl <;> exact absurd (htime.eq_of_mem hc) (by decide)
  have hhead : ∀ c, offset.head? = some c → (!isOffsetMark c) = false := by
    intro c hc
    cases hoffset with
    | none => cases hc
    | zero hmark =>
      cases hc
      rcases hmark with rfl | rfl <;> decide
    | hours hmark =>
      cases hc
      rcases hmark with rfl | rfl <;> decide
  rw [isZonedTime, takeWhile_append_rest hinside hhead, dropWhile_append_rest hinside hhead,
    isTime_of_spells htime, isOffset_of_spells hoffset, Bool.and_self]

/-! ## Numbers are no moments -/

/-- Whether the first digits of a text end in neither a hyphen nor a colon. -/
def GoesOn (text : List Char) : Prop :=
  ∀ c, (text.dropWhile Char.isDigit).head? = some c → c ≠ '-' ∧ c ≠ ':'

theorem goesOn_nil : GoesOn [] := by simp [GoesOn]

theorem goesOn_cons {c : Char} (hc : c ≠ '-' ∧ c ≠ ':') (hdigit : c.isDigit = false)
    (rest : List Char) : GoesOn (c :: rest) := by
  intro d hd
  rw [List.dropWhile_cons_of_neg (by simp [hdigit])] at hd
  cases hd
  exact hc

theorem goesOn_digit {c : Char} (hdigit : c.isDigit = true) :
    GoesOn (c :: rest) ↔ GoesOn rest := by
  rw [GoesOn, List.dropWhile_cons_of_pos hdigit, GoesOn]

theorem SpellsDigits.goesOn (hspells : SpellsDigits Char.isDigit text digits)
    (hrest : GoesOn rest) : GoesOn (text ++ rest) := by
  induction hspells with
  | last hdigit => exact (goesOn_digit hdigit).mpr hrest
  | next hdigit _ ih => exact (goesOn_digit hdigit).mpr ih
  | spaced hdigit _ _ => exact (goesOn_digit hdigit).mpr (goesOn_cons (by decide) (by decide) _)

theorem SpellsWhole.goesOn (hspells : SpellsWhole text digits) (hrest : GoesOn rest) :
    GoesOn (text ++ rest) := by
  cases hspells with
  | zero => exact (goesOn_digit (by decide)).mpr hrest
  | digits hdigits => exact hdigits.goesOn hrest

theorem SpellsExponent.goesOn {exponent : ℤ} (hspells : SpellsExponent text exponent) :
    GoesOn text := by
  cases hspells with
  | none => exact goesOn_nil
  | some hmark => rcases hmark with rfl | rfl <;> exact goesOn_cons (by decide) (by decide) _

theorem SpellsFraction.goesOn (hspells : SpellsFraction text digits) (hrest : GoesOn rest) :
    GoesOn (text ++ rest) := by
  cases hspells with
  | none => exact hrest
  | some => exact goesOn_cons (by decide) (by decide) _

theorem isDigit_of_two? {a b : Char} {value : ℕ} (hread : two? [a, b] = some value) :
    a.isDigit = true ∧ b.isDigit = true := by
  simp only [two?, Option.ite_none_right_eq_some, Bool.and_eq_true] at hread
  exact hread.1

/-- Whether a text begins with digits that end in a hyphen or a colon. -/
def BeginsMoment (text : List Char) : Prop :=
  ∃ front mark others, text = front ++ mark :: others ∧ front ≠ [] ∧
    (∀ c ∈ front, c.isDigit = true) ∧ (mark = '-' ∨ mark = ':')

theorem BeginsMoment.append (hbegins : BeginsMoment text) (rest : List Char) :
    BeginsMoment (text ++ rest) := by
  obtain ⟨front, mark, others, rfl, hfront⟩ := hbegins
  exact ⟨front, mark, others ++ rest, by simp, hfront⟩

theorem beginsMoment_of_isDate (hdate : isDate text = true) : BeginsMoment text := by
  rw [isDate.eq_def] at hdate
  split at hdate
  case h_1 a b c d e f g h =>
    split at hdate
    case h_1 hcentury hyear _ _ =>
      refine ⟨[a, b, c, d], '-', _, rfl, by simp, ?_, Or.inl rfl⟩
      simp [isDigit_of_two? hcentury, isDigit_of_two? hyear]
    case h_2 => cases hdate
  case h_2 => cases hdate

theorem beginsMoment_of_isHourMinute (htime : isHourMinute text = true) : BeginsMoment text := by
  rw [isHourMinute.eq_def] at htime
  split at htime
  case h_1 a b c d =>
    split at htime
    case h_1 hhour _ =>
      refine ⟨[a, b], ':', _, rfl, by simp, ?_, Or.inr rfl⟩
      simp [isDigit_of_two? hhour]
    case h_2 => cases htime
  case h_2 => cases htime

theorem beginsMoment_of_isMoment (hmoment : isMoment text = true) : BeginsMoment text := by
  simp only [isMoment, Bool.or_eq_true, Bool.and_eq_true, isTime] at hmoment
  rcases hmoment with (hdate | ⟨htime, -⟩) | ⟨hdate, -⟩
  · exact beginsMoment_of_isDate hdate
  · rw [← List.take_append_drop 5 text]
    exact (beginsMoment_of_isHourMinute htime).append _
  · rw [← List.take_append_drop 10 text]
    exact (beginsMoment_of_isDate hdate).append _

theorem GoesOn.isMoment_eq_false (hgoes : GoesOn text) : isMoment text = false := by
  refine Bool.eq_false_iff.mpr fun hmoment => ?_
  obtain ⟨front, mark, others, rfl, -, hfront, hmark⟩ := beginsMoment_of_isMoment hmoment
  have hdigit : mark.isDigit = false := by rcases hmark with rfl | rfl <;> decide
  have hhead : mark ≠ '-' ∧ mark ≠ ':' := by
    refine hgoes mark ?_
    rw [dropWhile_append_rest hfront fun c hc => by cases hc; exact hdigit]
    rfl
  rcases hmark with rfl | rfl
  · exact hhead.1 rfl
  · exact hhead.2 rfl

theorem isMoment_cons_eq_false {c : Char} (hc : c.isDigit = false) (rest : List Char) :
    isMoment (c :: rest) = false := by
  refine Bool.eq_false_iff.mpr fun hmoment => ?_
  obtain ⟨front, mark, others, heq, hne, hfront, -⟩ := beginsMoment_of_isMoment hmoment
  obtain ⟨d, front, rfl⟩ := List.exists_cons_of_ne_nil hne
  obtain rfl := (List.cons.inj heq).1
  rw [hfront c List.mem_cons_self] at hc
  cases hc

/-- A number is no moment, with a sign or without one. -/
theorem isMoment_number {mark : List Char} (hspells : SpellsSign mark negative)
    (hgoes : GoesOn text) : isMoment (mark ++ text) = false := by
  cases hspells with
  | none => exact hgoes.isMoment_eq_false
  | plus => exact isMoment_cons_eq_false (by decide) _
  | minus => exact isMoment_cons_eq_false (by decide) _

/-! ## Runs -/

/-- What may follow a value, blanks apart. -/
def enders : List Char :=
  [',', ']', '\x7d', '#', '\n', '\r']

/-- Whether a value is over where this text begins: if anything stands behind the blanks, it
is what may follow a value. -/
def Ends (rest : List Char) : Prop :=
  ∀ c, (Lexeme.skipBlanks rest).head? = some c → c ∈ enders

theorem of_mem_enders {c : Char} (hc : c ∈ enders) :
    isScalarChar c = false ∧ Lexeme.isBlank c = false := by
  have hall : (enders.all fun c => !isScalarChar c && !Lexeme.isBlank c) = true := by decide
  simpa using List.all_eq_true.mp hall c hc

theorem isScalarChar_of_isDigit {c : Char} (hc : c.isDigit = true) : isScalarChar c = true := by
  simp [isScalarChar, Char.isAlphanum, hc]

theorem Ends.isScalarChar_head (hends : Ends rest) {c : Char} (hc : rest.head? = some c) :
    isScalarChar c = false := by
  cases rest with
  | nil => cases hc
  | cons d rest =>
    cases hc
    by_cases hblank : Lexeme.isBlank c = true
    · simp only [Lexeme.isBlank, Bool.or_eq_true, beq_iff_eq] at hblank
      rcases hblank with rfl | rfl <;> decide
    · refine (of_mem_enders (hends c ?_)).1
      rw [skipBlanks_cons (by simpa using hblank)]
      rfl

theorem Ends.tail {c : Char} (hends : Ends (c :: rest)) (hc : Lexeme.isBlank c = true) :
    Ends rest := by
  intro d hd
  refine hends d ?_
  rw [Lexeme.skipBlanks, List.dropWhile_cons_of_pos hc]
  exact hd

theorem isScalarChar_of_isHexDigit {c : Char} (hc : isHexDigit c = true) :
    isScalarChar c = true := by
  simp only [isHexDigit, Bool.or_eq_true, Bool.and_eq_true, decide_eq_true_eq] at hc
  rcases hc with (hdigit | ⟨hfirst, hlast⟩) | ⟨hfirst, hlast⟩
  · exact isScalarChar_of_isDigit hdigit
  · have hlower : c.isLower = true :=
      Bool.and_eq_true_iff.mpr
        ⟨decide_eq_true hfirst, decide_eq_true (UInt32.le_trans hlast (by decide))⟩
    have halpha : c.isAlpha = true := Bool.or_eq_true_iff.mpr (.inr hlower)
    simp [isScalarChar, Char.isAlphanum, halpha]
  · have hupper : c.isUpper = true :=
      decide_eq_true ⟨hfirst, UInt32.le_trans hlast (by decide)⟩
    have halpha : c.isAlpha = true := Bool.or_eq_true_iff.mpr (.inl hupper)
    simp [isScalarChar, Char.isAlphanum, halpha]

theorem isScalarChar_of_isOctDigit {c : Char} (hc : isOctDigit c = true) :
    isScalarChar c = true := by
  simp only [isOctDigit, Bool.and_eq_true, decide_eq_true_eq] at hc
  have hdigit : c.isDigit = true :=
    Bool.and_eq_true_iff.mpr
      ⟨decide_eq_true hc.1, decide_eq_true (UInt32.le_trans hc.2 (by decide))⟩
  exact isScalarChar_of_isDigit hdigit

theorem isScalarChar_of_isBinDigit {c : Char} (hc : isBinDigit c = true) :
    isScalarChar c = true := by
  simp only [isBinDigit, Bool.or_eq_true, beq_iff_eq] at hc
  rcases hc with rfl | rfl <;> decide

theorem SpellsDigits.isScalarChar {isDigit : Char → Bool}
    (hspells : SpellsDigits isDigit text digits)
    (hclass : ∀ {c}, isDigit c = true → isScalarChar c = true) {c : Char} (hc : c ∈ text) :
    isScalarChar c = true := by
  rcases hspells.eq_of_mem hc with hdigit | rfl
  · exact hclass hdigit
  · decide

theorem SpellsSign.isScalarChar (hspells : SpellsSign text negative) {c : Char} (hc : c ∈ text) :
    isScalarChar c = true := by
  cases hspells with
  | none => cases hc
  | plus => rw [List.mem_singleton.mp hc]; decide
  | minus => rw [List.mem_singleton.mp hc]; decide

theorem SpellsWhole.isScalarChar (hspells : SpellsWhole text digits) {c : Char} (hc : c ∈ text) :
    isScalarChar c = true := by
  rcases hspells.eq_of_mem hc with hdigit | rfl
  · exact isScalarChar_of_isDigit hdigit
  · decide

/-- Whether the reader takes a run for a number or a word. -/
structure IsRun (text : List Char) (value : Toml) : Prop where
  ne_nil : text ≠ []
  isScalarChar : ∀ c ∈ text, isScalarChar c = true
  ofRun?_eq : ofRun? text = some value

/-- What begins with a digit, a sign or one of two letters is neither of the two words. -/
theorem ofRun?_number {c : Char} {others : List Char}
    (hc : c.isDigit = true ∨ c = '+' ∨ c = '-' ∨ c = 'i' ∨ c = 'n')
    (hmoment : isMoment (c :: others) = false) :
    ofRun? (c :: others) =
      if isFloat (c :: others) then some .float else (integer? (c :: others)).map .integer := by
  have hne : c ≠ 't' ∧ c ≠ 'f' := by
    constructor
    all_goals
      rintro rfl
      exact absurd hc (by decide)
  rw [ofRun?, if_neg (by simp [hne.1]), if_neg (by simp [hne.2]), hmoment]
  rfl

theorem isFloat_decimal {mark whole : List Char} (hsign : SpellsSign mark negative)
    (hwhole : SpellsWhole whole digits) : isFloat (mark ++ whole) = false := by
  have hsplit : Scalar.sign (mark ++ whole) = (negative, whole) :=
    sign_append hsign fun c hc => hwhole.head_ne_sign (by rwa [List.append_nil])
  have hcut := isCut_of_spells hwhole .none .none
  simp only [List.append_nil] at hcut
  rw [isFloat, hsplit]
  simp only [if_neg hcut.ne_word, hcut.power_eq, hcut.whole_eq, hcut.fraction_eq,
    decimalDigits?_of_spells hwhole]

/-- A zero and a letter that is no exponent begin no float. -/
theorem isFloat_based {mark : Char} (hmark : mark = 'x' ∨ mark = 'o' ∨ mark = 'b')
    (others : List Char) : isFloat ('0' :: mark :: others) = false := by
  rcases hmark with rfl | rfl | rfl
  all_goals
    simp [isFloat, Scalar.sign, isExponentMark, decimalDigits?]

/-- What a sign and more begin with. -/
theorem SpellsSign.exists_cons {mark : List Char} (hspells : SpellsSign mark negative)
    {p : Char → Prop} (hrest : ∃ c others, text = c :: others ∧ p c) :
    ∃ c others, mark ++ text = c :: others ∧ (p c ∨ c = '+' ∨ c = '-') := by
  obtain ⟨c, others, rfl, hc⟩ := hrest
  cases hspells with
  | none => exact ⟨c, others, rfl, Or.inl hc⟩
  | plus => exact ⟨'+', c :: others, rfl, Or.inr (Or.inl rfl)⟩
  | minus => exact ⟨'-', c :: others, rfl, Or.inr (Or.inr rfl)⟩

/-- A run with a sign or without one stands for a float or an integer, if what follows the
sign begins with a digit or one of the two letters. -/
theorem isRun_number {mark : List Char} {value : Toml} (hsign : SpellsSign mark negative)
    (hgoes : GoesOn text)
    (hhead : ∃ c others, text = c :: others ∧ (c.isDigit = true ∨ c = 'i' ∨ c = 'n'))
    (hchars : ∀ c ∈ text, isScalarChar c = true)
    (hread : (if isFloat (mark ++ text) then some .float
      else (integer? (mark ++ text)).map .integer) = some value) : IsRun (mark ++ text) value := by
  have hmoment := isMoment_number hsign hgoes
  have hall : ∀ c ∈ mark ++ text, isScalarChar c = true :=
    List.forall_mem_append.mpr ⟨fun _ => hsign.isScalarChar, hchars⟩
  obtain ⟨c, others, heq, hc⟩ := hsign.exists_cons hhead
  rw [heq] at hread hmoment hall ⊢
  exact ⟨by simp, hall, by rw [ofRun?_number (by tauto) hmoment, hread]⟩

theorem SpellsWhole.exists_head (hspells : SpellsWhole text digits) (rest : List Char) :
    ∃ c others, text ++ rest = c :: others ∧ (c.isDigit = true ∨ c = 'i' ∨ c = 'n') := by
  obtain ⟨c, others, rfl, hc⟩ := hspells.exists_cons
  exact ⟨c, others ++ rest, rfl, Or.inl hc⟩

theorem isRun_decimal {mark whole : List Char} (hsign : SpellsSign mark negative)
    (hwhole : SpellsWhole whole digits)
    (hle : -integerBound ≤ signed negative (ofDigits 10 digits))
    (hlt : signed negative (ofDigits 10 digits) < integerBound) :
    IsRun (mark ++ whole) (.integer (signed negative (ofDigits 10 digits))) := by
  have hgoes : GoesOn whole := by simpa using hwhole.goesOn goesOn_nil
  have hhead := hwhole.exists_head []
  rw [List.append_nil] at hhead
  refine isRun_number hsign hgoes hhead (fun _ => hwhole.isScalarChar) ?_
  rw [isFloat_decimal hsign hwhole, integer?_of_spells (.decimal hsign hwhole) hle hlt]
  rfl

theorem isRun_based {mark : Char} {value : ℤ} (hmark : mark = 'x' ∨ mark = 'o' ∨ mark = 'b')
    (hread : integer? ('0' :: mark :: text) = some value)
    (hchars : ∀ c ∈ text, isScalarChar c = true) :
    IsRun ('0' :: mark :: text) (.integer value) := by
  have hsolid : mark.isDigit = false ∧ (mark ≠ '-' ∧ mark ≠ ':') ∧ isScalarChar mark = true := by
    rcases hmark with rfl | rfl | rfl <;> decide
  have hgoes : GoesOn ('0' :: mark :: text) :=
    (goesOn_digit (by decide)).mpr (goesOn_cons hsolid.2.1 hsolid.1 text)
  refine ⟨by simp, ?_, ?_⟩
  · intro c hc
    rcases List.mem_cons.mp hc with rfl | hc
    · decide
    · rcases List.mem_cons.mp hc with rfl | hc
      · exact hsolid.2.2
      · exact hchars c hc
  · rw [ofRun?_number (by decide) hgoes.isMoment_eq_false, isFloat_based hmark, hread]
    rfl

theorem isRun_integer {value : ℤ} (hspells : SpellsInteger text value)
    (hle : -integerBound ≤ value) (hlt : value < integerBound) : IsRun text (.integer value) := by
  have hread := integer?_of_spells hspells hle hlt
  cases hspells with
  | decimal hsign hwhole => exact isRun_decimal hsign hwhole hle hlt
  | hexadecimal hdigits =>
    exact isRun_based (by simp) hread fun _ => hdigits.isScalarChar isScalarChar_of_isHexDigit
  | octal hdigits =>
    exact isRun_based (by simp) hread fun _ => hdigits.isScalarChar isScalarChar_of_isOctDigit
  | binary hdigits =>
    exact isRun_based (by simp) hread fun _ => hdigits.isScalarChar isScalarChar_of_isBinDigit

theorem SpellsFraction.isScalarChar (hspells : SpellsFraction text digits) {c : Char}
    (hc : c ∈ text) : isScalarChar c = true := by
  rcases hspells.eq_of_mem hc with rfl | hdigit | rfl
  · decide
  · exact isScalarChar_of_isDigit hdigit
  · decide

theorem SpellsExponent.isScalarChar {exponent : ℤ} (hspells : SpellsExponent text exponent)
    {c : Char} (hc : c ∈ text) : isScalarChar c = true := by
  cases hspells with
  | none => cases hc
  | some hmark hsign hdigits =>
    simp only [List.mem_cons, List.mem_append] at hc
    rcases hc with rfl | hc | hc
    · rcases hmark with rfl | rfl <;> decide
    · exact hsign.isScalarChar hc
    · exact hdigits.isScalarChar isScalarChar_of_isDigit hc

theorem isRun_word {mark word : List Char} (hsign : SpellsSign mark negative)
    (hword : word = ['i', 'n', 'f'] ∨ word = ['n', 'a', 'n']) : IsRun (mark ++ word) .float := by
  have hgoes : GoesOn word := by
    rcases hword with rfl | rfl <;> exact goesOn_cons (by decide) (by decide) _
  have hletters : word.all isScalarChar = true := by
    rcases hword with rfl | rfl <;> decide
  have hhead : ∃ c others, word = c :: others ∧ (c.isDigit = true ∨ c = 'i' ∨ c = 'n') := by
    rcases hword with rfl | rfl <;> exact ⟨_, _, rfl, by decide⟩
  refine isRun_number hsign hgoes hhead (List.all_eq_true.mp hletters) ?_
  rw [if_pos (isFloat_word hsign hword)]

theorem isRun_float (hspells : SpellsFloat text) : IsRun text .float := by
  have hfloat := isFloat_of_spells hspells
  cases hspells with
  | infinity hsign => exact isRun_word hsign (Or.inl rfl)
  | notNumber hsign => exact isRun_word hsign (Or.inr rfl)
  | @decimal mark whole digits fraction places power negative exponent hsign hwhole hfraction
      hpower =>
    have hgoes := hwhole.goesOn (hfraction.goesOn hpower.goesOn)
    have hchars : ∀ c ∈ whole ++ (fraction ++ power), isScalarChar c = true := by
      intro c hc
      simp only [List.mem_append] at hc
      rcases hc with hc | hc | hc
      · exact hwhole.isScalarChar hc
      · exact hfraction.isScalarChar hc
      · exact hpower.isScalarChar hc
    refine isRun_number hsign hgoes (hwhole.exists_head _) hchars ?_
    rw [if_pos hfloat]

theorem ofRun?_moment (hmoment : isMoment text = true) : ofRun? text = some .moment := by
  obtain ⟨front, mark, others, heq, hne, hfront, -⟩ := beginsMoment_of_isMoment hmoment
  obtain ⟨c, front, rfl⟩ := List.exists_cons_of_ne_nil hne
  have hc : c ≠ 't' ∧ c ≠ 'f' := by
    constructor
    all_goals
      rintro rfl
      exact absurd (hfront _ List.mem_cons_self) (by decide)
  rw [ofRun?, if_neg (by simp [heq, hc.1]), if_neg (by simp [heq, hc.2]), if_pos hmoment]

theorem isMoment_of_isDate (hdate : isDate text = true) : isMoment text = true := by
  rw [isMoment, hdate]
  rfl

/-- A date is over where no time follows behind a space. -/
theorem scalar_date (hdate : isDate text = true) (hchars : ∀ c ∈ text, isScalarChar c = true)
    (hends : Ends rest) : scalar (text ++ rest) = some (.moment, rest) := by
  have hhead : ∀ c, rest.head? = some c → Scalar.isScalarChar c = false :=
    fun _ => hends.isScalarChar_head
  rw [scalar, takeWhile_append_rest hchars hhead, dropWhile_append_rest hchars hhead]
  simp only [if_pos hdate]
  split
  · rename_i more
    have hmore : more.takeWhile isScalarChar = [] := by
      cases more with
      | nil => rfl
      | cons c more =>
        have hc := (hends.tail (by decide)).isScalarChar_head rfl
        rw [List.takeWhile_cons_of_neg (by simp [hc])]
    rw [if_pos hmore]
  · rfl

/-- A run is read whole where a value is over. -/
theorem scalar_append {value : Toml} (hrun : IsRun text value) (hends : Ends rest) :
    scalar (text ++ rest) = some (value, rest) := by
  have hread := hrun.ofRun?_eq
  by_cases hdate : isDate text = true
  · rw [ofRun?_moment (isMoment_of_isDate hdate)] at hread
    obtain rfl := Option.some.inj hread
    exact scalar_date hdate hrun.isScalarChar hends
  · have hhead : ∀ c, rest.head? = some c → Scalar.isScalarChar c = false :=
      fun _ => hends.isScalarChar_head
    rw [scalar, takeWhile_append_rest hrun.isScalarChar hhead,
      dropWhile_append_rest hrun.isScalarChar hhead]
    simp only [if_neg hdate, hread]
    rfl

theorem SpellsDate.isScalarChar (hspells : SpellsDate text) {c : Char} (hc : c ∈ text) :
    isScalarChar c = true := by
  rcases hspells.eq_of_mem hc with hdigit | rfl
  · exact isScalarChar_of_isDigit hdigit
  · decide

theorem isScalarChar_zonedTime {time offset : List Char} (htime : SpellsTime time)
    (hoffset : SpellsOffset offset) {c : Char} (hc : c ∈ time ++ offset) :
    isScalarChar c = true := by
  rcases List.mem_append.mp hc with hc | hc
  · rcases htime.eq_of_mem hc with hdigit | rfl | rfl
    · exact isScalarChar_of_isDigit hdigit
    · decide
    · decide
  · rcases hoffset.eq_of_mem hc with hmark | hdigit | rfl
    · simp only [isOffsetMark, Bool.or_eq_true, beq_iff_eq] at hmark
      rcases hmark with ((rfl | rfl) | rfl) | rfl <;> decide
    · exact isScalarChar_of_isDigit hdigit
    · decide

theorem SpellsTime.ne_nil (hspells : SpellsTime text) : text ≠ [] := by
  cases hspells with
  | time => simp [twoDigits]

/-- A date and a time with a space between them are read as one moment. -/
theorem scalar_spaced {date time offset : List Char} (hdate : SpellsDate date)
    (htime : SpellsTime time) (hoffset : SpellsOffset offset) (hends : Ends rest) :
    scalar (date ++ ' ' :: (time ++ offset ++ rest)) = some (.moment, rest) := by
  have hdateHead : ∀ c, (' ' :: (time ++ offset ++ rest)).head? = some c →
      Scalar.isScalarChar c = false := by
    intro c hc
    cases hc
    decide
  have hdateChars : ∀ c ∈ date, Scalar.isScalarChar c = true := fun _ => hdate.isScalarChar
  have hzoned : ∀ c ∈ time ++ offset, Scalar.isScalarChar c = true :=
    fun _ => isScalarChar_zonedTime htime hoffset
  have hhead : ∀ c, rest.head? = some c → Scalar.isScalarChar c = false :=
    fun _ => hends.isScalarChar_head
  have hne : time ++ offset ≠ [] := by simp [htime.ne_nil]
  rw [scalar, takeWhile_append_rest hdateChars hdateHead,
    dropWhile_append_rest hdateChars hdateHead]
  simp only [if_pos (isDate_of_spells hdate), takeWhile_append_rest hzoned hhead,
    dropWhile_append_rest hzoned hhead, if_neg hne, if_pos (isZonedTime_of_spells htime hoffset)]

theorem isMoment_both {date time offset : List Char} {mark : Char} (hdate : SpellsDate date)
    (hmark : mark = 'T' ∨ mark = 't') (htime : SpellsTime time) (hoffset : SpellsOffset offset) :
    isMoment (date ++ mark :: (time ++ offset)) = true := by
  have hlength : date.length = 10 := by
    cases hdate
    rfl
  have htake : (date ++ mark :: (time ++ offset)).take 10 = date := by
    rw [← hlength, List.take_left]
  have hdrop : (date ++ mark :: (time ++ offset)).drop 10 = mark :: (time ++ offset) := by
    rw [← hlength, List.drop_left]
  have hbetween : (mark == 'T' || mark == 't') = true := by
    rcases hmark with rfl | rfl <;> rfl
  rw [isMoment, htake, hdrop]
  simp only [hbetween, isDate_of_spells hdate, isZonedTime_of_spells htime hoffset,
    Bool.and_self, Bool.or_true]

/-- A moment is read whole where a value is over. -/
theorem scalar_moment (hspells : SpellsMoment text) (hends : Ends rest) :
    scalar (text ++ rest) = some (.moment, rest) := by
  cases hspells with
  | date hdate => exact scalar_date (isDate_of_spells hdate) (fun _ => hdate.isScalarChar) hends
  | time htime =>
    have hchars : ∀ c ∈ text, Scalar.isScalarChar c = true := fun c hc =>
      isScalarChar_zonedTime htime .none (List.mem_append_left [] hc)
    refine scalar_append ⟨htime.ne_nil, hchars, ofRun?_moment ?_⟩ hends
    simp [isMoment, isTime_of_spells htime]
  | @both date time offset mark hdate hmark htime hoffset =>
    rcases or_assoc.mpr hmark with hletter | rfl
    · refine scalar_append ⟨by simp, ?_, ofRun?_moment (isMoment_both hdate hletter htime hoffset)⟩
        hends
      intro c hc
      rcases List.mem_append.mp hc with hc | hc
      · exact hdate.isScalarChar hc
      · rcases List.mem_cons.mp hc with rfl | hc
        · rcases hletter with rfl | rfl <;> decide
        · exact isScalarChar_zonedTime htime hoffset hc
    · rw [List.append_assoc, List.cons_append]
      exact scalar_spaced hdate htime hoffset hends

end SyscallPolicy.Toml
