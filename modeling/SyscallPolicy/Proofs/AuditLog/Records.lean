import Mathlib.Algebra.Ring.Nat
import Mathlib.Data.List.Basic
import Mathlib.Data.List.TakeWhile
import SyscallPolicy.AuditLog.Field

/-!
# The search for records finds them

`recordDigits?` goes through a line from the left, `IsRecord` says where the
fields of a record stand.  `recordDigits?_eq_some_iff` says that they agree.
A field is known by how much of the line it leaves: fewer characters from it
on means later.

* `afterFirst?_eq_some_iff`: the first mark;
* `mem_fields_iff`, `pairwise_fields` and `getLast?_fields_iff`: the fields
  of a text, their order and the last of them;
* `fields_append_field`: no field begins inside of another one, so a field
  that begins later begins behind it;
* `processAt_iff` and `lastSyscallAt_iff`: places as fields that are found;
* `isRecord_iff` and `isRecord_iff_behind`: records in terms of these fields;
* `callNumber?_eq_some_iff`: the numbers of system calls.
-/

namespace SyscallPolicy.AuditLog

open Text (isDecimal isWord isWord_of_isDecimal)

variable {text label other digits body rest front line s : List Char} {c : Char}
  {field : List Char × List Char} {processes : List (List Char)} {place : Nat}

/-! ## The first occurrence of a text -/

theorem standsAt_zero_iff : StandsAt line text 0 ↔ text <+: line := by
  constructor
  · rintro ⟨before, after, rfl, hbefore⟩
    obtain rfl := List.eq_nil_of_length_eq_zero hbefore
    exact ⟨after, rfl⟩
  · rintro ⟨after, rfl⟩
    exact ⟨[], after, rfl, rfl⟩

theorem standsAt_cons_succ_iff :
    StandsAt (c :: line) text (place + 1) ↔ StandsAt line text place := by
  constructor
  · rintro ⟨_ | ⟨first, before⟩, after, hline, hbefore⟩
    · cases hbefore
    · exact ⟨before, after, (List.cons.inj hline).2, Nat.succ.inj hbefore⟩
  · rintro ⟨before, after, rfl, rfl⟩
    exact ⟨c :: before, after, rfl, rfl⟩

theorem standsFirstAt_zero_iff : StandsFirstAt line text 0 ↔ text <+: line := by
  simp [StandsFirstAt, standsAt_zero_iff]

theorem standsFirstAt_cons_succ_iff : StandsFirstAt (c :: line) text (place + 1) ↔
    ¬text <+: c :: line ∧ StandsFirstAt line text place := by
  simp only [StandsFirstAt, standsAt_cons_succ_iff, Nat.forall_lt_succ_left, standsAt_zero_iff]
  exact and_left_comm

theorem afterFirst?_eq_some_iff (htext : text ≠ []) : afterFirst? text line = some body ↔
    ∃ before, line = before ++ text ++ body ∧ StandsFirstAt line text before.length := by
  induction line with
  | nil => simp [afterFirst?, htext]
  | cons c line ih =>
    rw [afterFirst?]
    split
    case isTrue hprefix =>
      have hfirst : text <+: c :: line := List.isPrefixOf_iff_prefix.mp hprefix
      have hline : text ++ (c :: line).drop text.length = c :: line :=
        List.prefix_iff_eq_append.mp hfirst
      constructor
      · intro hbody
        rw [← Option.some.inj hbody]
        exact ⟨[], hline.symm, standsFirstAt_zero_iff.mpr hfirst⟩
      · rintro ⟨_ | ⟨d, before⟩, hbody, hplace⟩
        · rw [hbody, List.nil_append, List.drop_left]
        · exact absurd hfirst (standsFirstAt_cons_succ_iff.mp hplace).1
    case isFalse hprefix =>
      have hfirst : ¬text <+: c :: line := fun h => hprefix (List.isPrefixOf_iff_prefix.mpr h)
      rw [ih]
      constructor
      · rintro ⟨before, hbody, hplace⟩
        exact ⟨c :: before, by rw [hbody]; rfl, standsFirstAt_cons_succ_iff.mpr ⟨hfirst, hplace⟩⟩
      · rintro ⟨_ | ⟨d, before⟩, hbody, hplace⟩
        · exact absurd (standsFirstAt_zero_iff.mp hplace) hfirst
        · exact ⟨before, (List.cons.inj hbody).2, (standsFirstAt_cons_succ_iff.mp hplace).2⟩

/-! ## The fields of a text -/

/-- Decimal digits, one or more. -/
def IsDigits (digits : List Char) : Prop :=
  digits ≠ [] ∧ ∀ c ∈ digits, isDecimal c = true

theorem endsWord_iff : endsWord s = true ↔ ∀ c ∈ s.head?, isWord c = false := by
  cases s <;> simp [endsWord]

/-- What no word goes on with is not decimal. -/
theorem takeWhile_eq_nil_of_endsWord (hs : endsWord s = true) : s.takeWhile isDecimal = [] := by
  cases s with
  | nil => rfl
  | cons c s =>
    refine List.takeWhile_cons_of_neg fun hdecimal => ?_
    rw [endsWord, isWord_of_isDecimal hdecimal] at hs
    cases hs

theorem fieldAt?_eq_some_iff : fieldAt? label s = some (digits, rest) ↔
    s = label ++ digits ++ rest ∧ IsDigits digits ∧ endsWord rest = true := by
  constructor
  · intro hfield
    unfold fieldAt? at hfield
    split at hfield
    case isTrue hprefix =>
      obtain ⟨after, rfl⟩ := List.isPrefixOf_iff_prefix.mp hprefix
      rw [List.drop_left, Option.ite_none_right_eq_some] at hfield
      obtain ⟨⟨hne, hrest⟩, hfield⟩ := hfield
      obtain ⟨rfl, rfl⟩ := Prod.mk.inj (Option.some.inj hfield)
      refine ⟨?_, ⟨hne, fun c hc => List.mem_takeWhile_imp hc⟩, hrest⟩
      rw [List.append_assoc, List.takeWhile_append_dropWhile]
    case isFalse => cases hfield
  · rintro ⟨rfl, ⟨hne, hdigits⟩, hrest⟩
    have htake : (digits ++ rest).takeWhile isDecimal = digits := by
      rw [List.takeWhile_append_of_pos hdigits, takeWhile_eq_nil_of_endsWord hrest,
        List.append_nil]
    have hdrop : (digits ++ rest).dropWhile isDecimal = rest := by
      rw [List.dropWhile_append_of_pos hdigits, ← List.nil_append (rest.dropWhile isDecimal),
        ← takeWhile_eq_nil_of_endsWord hrest, List.takeWhile_append_dropWhile]
    have hprefix : label.isPrefixOf (label ++ (digits ++ rest)) = true :=
      List.isPrefixOf_iff_prefix.mpr (List.prefix_append _ _)
    rw [List.append_assoc, fieldAt?, if_pos hprefix, List.drop_left, htake, hdrop,
      if_pos ⟨hne, hrest⟩]

theorem fields_cons_of_isWord (hc : isWord c = true) : fields label (c :: s) = fields label s := by
  rw [fields]
  split <;> simp [hc]

theorem fields_cons_of_none (hs : fieldAt? label s = none) :
    fields label (c :: s) = fields label s := by
  rw [fields, hs]

theorem fields_cons_of_some (hs : fieldAt? label s = some field) (hc : isWord c = false) :
    fields label (c :: s) = field :: fields label s := by
  simp only [fields, hs, hc, Bool.false_eq_true, if_false]

/-- One character more in front leaves the fields or adds one to them. -/
theorem fields_cons_cases (label : List Char) (c : Char) (s : List Char) :
    fields label (c :: s) = fields label s ∧ (isWord c = true ∨ fieldAt? label s = none) ∨
      ∃ field, fields label (c :: s) = field :: fields label s ∧ isWord c = false ∧
        fieldAt? label s = some field := by
  cases hs : fieldAt? label s with
  | none => exact .inl ⟨fields_cons_of_none hs, .inr rfl⟩
  | some field =>
    cases hc : isWord c with
    | true => exact .inl ⟨fields_cons_of_isWord hc, .inl rfl⟩
    | false => exact .inr ⟨field, fields_cons_of_some hs hc, rfl, rfl⟩

theorem mem_fields_cons_iff : field ∈ fields label (c :: s) ↔
    isWord c = false ∧ fieldAt? label s = some field ∨ field ∈ fields label s := by
  rcases fields_cons_cases label c s with ⟨hfields, hnone⟩ | ⟨first, hfields, hc, hs⟩
  · rw [hfields]
    refine ⟨.inr, fun hfield => hfield.resolve_left ?_⟩
    rintro ⟨hc, hs⟩
    rcases hnone with hword | hnone
    · rw [hword] at hc
      cases hc
    · rw [hnone] at hs
      cases hs
  · rw [hfields, List.mem_cons, hs, Option.some.injEq, eq_comm (a := first)]
    simp [hc]

theorem mem_fields_iff : (digits, rest) ∈ fields label s ↔
    (∃ before, s = before ++ label ++ digits ++ rest ∧ ∃ c ∈ before.getLast?, isWord c = false) ∧
      IsDigits digits ∧ endsWord rest = true := by
  induction s with
  | nil =>
    simp only [fields, List.not_mem_nil, false_iff]
    rintro ⟨⟨before, hnil, c, hc, -⟩, -⟩
    simp only [List.nil_eq, List.append_eq_nil_iff] at hnil
    rw [hnil.1.1.1] at hc
    cases hc
  | cons c s ih =>
    rw [mem_fields_cons_iff, fieldAt?_eq_some_iff, ih]
    constructor
    · rintro (⟨hc, rfl, hfield⟩ | ⟨⟨before, rfl, d, hd, hword⟩, hfield⟩)
      · exact ⟨⟨[c], rfl, c, rfl, hc⟩, hfield⟩
      · refine ⟨⟨c :: before, rfl, d, ?_, hword⟩, hfield⟩
        rw [List.getLast?_cons, hd]
        rfl
    -- A field in front of which one character stands is the one that is found here.
    · rintro ⟨⟨_ | ⟨d, _ | ⟨e, before⟩⟩, hs, last, hlast, hword⟩, hfield⟩
      · cases hlast
      · obtain ⟨rfl, rfl⟩ := List.cons.inj hs
        obtain rfl := Option.some.inj hlast
        exact .inl ⟨hword, rfl, hfield⟩
      · obtain ⟨rfl, rfl⟩ := List.cons.inj hs
        rw [List.getLast?_cons_cons] at hlast
        exact .inr ⟨⟨e :: before, rfl, last, hlast, hword⟩, hfield⟩

/-! ## The order of fields -/

/-- How many characters there are from the beginning of a field on. -/
def lengthFrom (label : List Char) (field : List Char × List Char) : Nat :=
  label.length + field.1.length + field.2.length

theorem lengthFrom_lt (hfield : field ∈ fields label s) : lengthFrom label field < s.length := by
  obtain ⟨⟨before, rfl, c, hc, -⟩, -⟩ := mem_fields_iff.mp hfield
  have hbefore : 0 < before.length := List.length_pos_of_mem (List.mem_of_getLast? hc)
  simp only [lengthFrom, List.length_append]
  omega

theorem pairwise_fields (label s : List Char) :
    (fields label s).Pairwise fun f g => lengthFrom label g < lengthFrom label f := by
  induction s with
  | nil => exact .nil
  | cons c s ih =>
    rcases fields_cons_cases label c s with ⟨hfields, -⟩ | ⟨⟨digits, rest⟩, hfields, -, hs⟩
    · exact hfields ▸ ih
    · rw [hfields]
      refine .cons (fun field hfield => ?_) ih
      have hlt := lengthFrom_lt hfield
      rw [(fieldAt?_eq_some_iff.mp hs).1] at hlt
      simpa only [lengthFrom, List.length_append] using hlt

theorem getLast?_fields_iff : (fields label s).getLast? = some field ↔
    field ∈ fields label s ∧
      ∀ other ∈ fields label s, lengthFrom label field ≤ lengthFrom label other := by
  have hordered := pairwise_fields label s
  constructor
  · intro hlast
    obtain ⟨others, hfields⟩ := List.getLast?_eq_some_iff.mp hlast
    rw [hfields, List.pairwise_append] at hordered
    rw [hfields, List.forall_mem_append, List.forall_mem_singleton]
    exact ⟨List.mem_append_right _ List.mem_cons_self,
      fun other hother => (hordered.2.2 other hother field List.mem_cons_self).le, le_rfl⟩
  · rintro ⟨hfield, hleast⟩
    obtain ⟨others, last, hfields⟩ :=
      (List.eq_nil_or_concat' (fields label s)).resolve_left (List.ne_nil_of_mem hfield)
    rw [hfields, List.pairwise_append] at hordered
    rw [hfields] at hfield hleast ⊢
    rcases List.mem_append.mp hfield with hothers | hlast
    · have hlt := hordered.2.2 field hothers last List.mem_cons_self
      have hle := hleast last (List.mem_append_right _ List.mem_cons_self)
      omega
    · rw [List.mem_singleton.mp hlast, List.getLast?_concat]

/-! ## Fields of a part -/

/-- What stands in front adds fields in front only. -/
theorem suffix_fields_append (label front s : List Char) :
    fields label s <:+ fields label (front ++ s) := by
  induction front with
  | nil => exact List.suffix_rfl
  | cons c front ih =>
    rw [List.cons_append]
    rcases fields_cons_cases label c (front ++ s) with ⟨hfields, -⟩ | ⟨field, hfields, -⟩
    · exact hfields ▸ ih
    · exact hfields ▸ ih.trans (List.suffix_cons _ _)

theorem mem_fields_append_iff : field ∈ fields label s ↔
    field ∈ fields label (front ++ s) ∧ lengthFrom label field < s.length := by
  constructor
  · exact fun hfield => ⟨(suffix_fields_append label front s).subset hfield, lengthFrom_lt hfield⟩
  · rintro ⟨hfield, hlt⟩
    obtain ⟨⟨before, hs, c, hc, hword⟩, hdigits⟩ := mem_fields_iff.mp hfield
    rw [List.append_assoc, List.append_assoc] at hs
    refine mem_fields_iff.mpr ⟨?_, hdigits⟩
    -- Either the field begins inside of the part, or it is too long to.
    rcases List.append_eq_append_iff.mp hs with ⟨gap, hbefore, hgap⟩ | ⟨gap, -, hgap⟩
    · refine ⟨gap, by rw [hgap, List.append_assoc, List.append_assoc], c, ?_, hword⟩
      have hne : gap ≠ [] := by
        rintro rfl
        rw [hgap] at hlt
        simp only [lengthFrom, List.nil_append, List.length_append] at hlt
        omega
      rwa [hbefore, List.getLast?_append_of_ne_nil _ hne] at hc
    · have hlength := congrArg List.length hgap
      simp only [lengthFrom, List.length_append] at hlt hlength
      omega

/-- The last field of a part is the last of the whole, if it is in there. -/
theorem getLast?_fields_append_iff : (fields label s).getLast? = some field ↔
    (fields label (front ++ s)).getLast? = some field ∧ lengthFrom label field < s.length := by
  simp only [getLast?_fields_iff]
  constructor
  · rintro ⟨hfield, hleast⟩
    have hlt := lengthFrom_lt hfield
    refine ⟨⟨(mem_fields_append_iff.mp hfield).1, fun other hother => ?_⟩, hlt⟩
    by_cases hinside : lengthFrom label other < s.length
    · exact hleast other (mem_fields_append_iff.mpr ⟨hother, hinside⟩)
    · omega
  · rintro ⟨⟨hfield, hleast⟩, hlt⟩
    exact ⟨mem_fields_append_iff.mpr ⟨hfield, hlt⟩,
      fun other hother => hleast other (mem_fields_append_iff.mp hother).1⟩

/-! ## No field inside of another one -/

/-- What fields are labelled with: word characters and one character more,
and no digit first. -/
structure IsLabel (label : List Char) : Prop where
  words : ∀ c ∈ label.dropLast, isWord c = true
  head : ∃ c ∈ label.head?, isDecimal c = false

theorem isLabel_processLabel : IsLabel processLabel :=
  ⟨List.all_eq_true.mp (by decide +kernel), 'p', rfl, by decide +kernel⟩

theorem isLabel_syscallLabel : IsLabel syscallLabel :=
  ⟨List.all_eq_true.mp (by decide +kernel), 's', rfl, by decide +kernel⟩

theorem fields_append_of_words (hfront : ∀ c ∈ front, isWord c = true) :
    fields label (front ++ s) = fields label s := by
  induction front with
  | nil => rfl
  | cons c front ih =>
    obtain ⟨hc, hfront⟩ := List.forall_mem_cons.mp hfront
    rw [List.cons_append, fields_cons_of_isWord hc, ih hfront]

/-- No field begins with a digit. -/
theorem fieldAt?_digits_append (hlabel : IsLabel label) (hdigits : IsDigits digits) :
    fieldAt? label (digits ++ s) = none := by
  refine Option.eq_none_iff_forall_ne_some.mpr fun field hfield => ?_
  obtain ⟨hs, -⟩ := fieldAt?_eq_some_iff.mp hfield
  obtain ⟨c, hc, hdecimal⟩ := hlabel.head
  obtain ⟨d, digits, rfl⟩ := List.exists_cons_of_ne_nil hdigits.1
  obtain ⟨label, rfl⟩ : ∃ tail, label = c :: tail := List.head?_eq_some_iff.mp hc
  have hfirst : d = c := (List.cons.inj hs).1
  have hd : isDecimal d = true := hdigits.2 d List.mem_cons_self
  rw [hfirst, hdecimal] at hd
  cases hd

theorem fields_append_field (hlabel : IsLabel label) (hother : IsLabel other)
    (hdigits : IsDigits digits) : fields label (other ++ digits ++ s) = fields label s := by
  have hne : other ≠ [] := by
    rintro rfl
    obtain ⟨c, hc, -⟩ := hother.head
    cases hc
  rw [← List.dropLast_append_getLast hne, List.append_assoc, List.append_assoc,
    fields_append_of_words hother.words, List.singleton_append,
    fields_cons_of_none (fieldAt?_digits_append hlabel hdigits),
    fields_append_of_words fun c hc => isWord_of_isDecimal (hdigits.2 c hc)]

/-! ## Fields and places -/

theorem labelledAt_iff (hdigits : IsDigits digits) : LabelledAt line label digits place ↔
    ∃ rest, (digits, rest) ∈ fields label line ∧
      place + lengthFrom label (digits, rest) = line.length := by
  simp only [mem_fields_iff, endsWord_iff, LabelledAt]
  constructor
  · rintro ⟨before, rest, rfl, rfl, hbefore, hrest⟩
    refine ⟨rest, ⟨⟨before, rfl, hbefore⟩, hdigits, hrest⟩, ?_⟩
    simp only [lengthFrom, List.length_append]
    omega
  · rintro ⟨rest, ⟨⟨before, rfl, hbefore⟩, -, hrest⟩, hplace⟩
    refine ⟨before, rest, rfl, ?_, hbefore, hrest⟩
    simp only [lengthFrom, List.length_append] at hplace
    omega

theorem syscallAt_iff : SyscallAt line digits place ↔
    ∃ rest, (digits, rest) ∈ fields syscallLabel line ∧
      place + lengthFrom syscallLabel (digits, rest) = line.length := by
  constructor
  · rintro ⟨hplace, hdigits⟩
    exact (labelledAt_iff hdigits).mp hplace
  · rintro ⟨rest, hfield, hplace⟩
    have hdigits : IsDigits digits := (mem_fields_iff.mp hfield).2.1
    exact ⟨(labelledAt_iff hdigits).mpr ⟨rest, hfield, hplace⟩, hdigits⟩

theorem lastSyscallAt_iff : LastSyscallAt line digits place ↔
    ∃ rest, (fields syscallLabel line).getLast? = some (digits, rest) ∧
      place + lengthFrom syscallLabel (digits, rest) = line.length := by
  simp only [LastSyscallAt, syscallAt_iff, getLast?_fields_iff]
  constructor
  · rintro ⟨⟨rest, hfield, hplace⟩, hlast⟩
    refine ⟨rest, ⟨hfield, fun other hother => ?_⟩, hplace⟩
    have hlt := lengthFrom_lt hother
    have hle := hlast other.1 (line.length - lengthFrom syscallLabel other)
      ⟨other.2, hother, Nat.sub_add_cancel hlt.le⟩
    omega
  · rintro ⟨rest, ⟨hfield, hleast⟩, hplace⟩
    refine ⟨⟨rest, hfield, hplace⟩, ?_⟩
    rintro other later ⟨left, hother, hlater⟩
    have hle := hleast _ hother
    omega

/-- Where there are system calls, one of them is the last. -/
theorem exists_lastSyscallAt (hcall : SyscallAt line digits place) :
    ∃ last later, LastSyscallAt line last later ∧ place ≤ later := by
  obtain ⟨rest, hfield, -⟩ := syscallAt_iff.mp hcall
  obtain ⟨field, hlast⟩ : ∃ field, (fields syscallLabel line).getLast? = some field :=
    Option.ne_none_iff_exists'.mp (mt List.getLast?_eq_none_iff.mp (List.ne_nil_of_mem hfield))
  have hlt := lengthFrom_lt (List.mem_of_getLast? hlast)
  have hfound : LastSyscallAt line field.1 (line.length - lengthFrom syscallLabel field) :=
    lastSyscallAt_iff.mpr ⟨field.2, hlast, Nat.sub_add_cancel hlt.le⟩
  exact ⟨_, _, hfound, hfound.2 digits place hcall⟩

theorem processAt_iff (hdigits : IsDigits digits) : ProcessAt line digits place ↔
    ∃ body rest, afterFirst? mark line = some body ∧ (digits, rest) ∈ fields processLabel body ∧
      place + lengthFrom processLabel (digits, rest) = line.length := by
  have hmark : mark ≠ [] := by decide
  rw [ProcessAt, labelledAt_iff hdigits]
  simp only [afterFirst?_eq_some_iff hmark]
  constructor
  · rintro ⟨⟨rest, hfield, hplace⟩, marked, hfirst, hlt⟩
    obtain ⟨before, body, hline, rfl⟩ := hfirst.1
    refine ⟨body, rest, ⟨before, hline, hfirst⟩, ?_, hplace⟩
    have hlength := congrArg List.length hline
    simp only [List.length_append] at hlength
    rw [hline] at hfield
    exact mem_fields_append_iff.mpr ⟨hfield, by omega⟩
  · rintro ⟨body, rest, ⟨before, hline, hfirst⟩, hfield, hplace⟩
    have hlt := lengthFrom_lt hfield
    have hlength := congrArg List.length hline
    simp only [List.length_append] at hlength
    refine ⟨⟨rest, ?_, hplace⟩, before.length, hfirst, by omega⟩
    rw [hline]
    exact (mem_fields_append_iff.mp hfield).1

/-! ## Records -/

/-- A line has one last system call. -/
theorem IsRecord.digits_unique {others : List (List Char)} {digits' : List Char}
    (hdigits : IsRecord processes line digits) (hdigits' : IsRecord others line digits') :
    digits = digits' := by
  obtain ⟨_, _, _, _, _, hlast, _⟩ := hdigits
  obtain ⟨_, _, _, _, _, hlast', _⟩ := hdigits'
  obtain ⟨rest, hfield, -⟩ := lastSyscallAt_iff.mp hlast
  obtain ⟨rest', hfield', -⟩ := lastSyscallAt_iff.mp hlast'
  exact congrArg Prod.fst (Option.some.inj (hfield.symm.trans hfield'))

theorem isRecord_append_iff {others : List (List Char)} :
    IsRecord (processes ++ others) line digits ↔
      IsRecord processes line digits ∨ IsRecord others line digits := by
  simp only [IsRecord, List.mem_append, or_and_right, exists_or]

/-- A record in terms of the fields that are found in it. -/
theorem isRecord_iff (hprocesses : ∀ process ∈ processes, IsDigits process) :
    IsRecord processes line digits ↔
      ∃ body process rest, afterFirst? mark line = some body ∧
        process ∈ fields processLabel body ∧ process.1 ∈ processes ∧
        (fields syscallLabel line).getLast? = some (digits, rest) ∧
        lengthFrom syscallLabel (digits, rest) < process.2.length := by
  constructor
  · rintro ⟨process, hmem, i, j, hprocess, hlast, hlt⟩
    obtain ⟨body, behind, hbody, hfield, hplace⟩ := (processAt_iff (hprocesses _ hmem)).mp hprocess
    obtain ⟨rest, hlast, hplace'⟩ := lastSyscallAt_iff.mp hlast
    refine ⟨body, (process, behind), rest, hbody, hfield, hmem, hlast, ?_⟩
    simp only [lengthFrom] at hplace hplace' ⊢
    omega
  · rintro ⟨body, ⟨process, behind⟩, rest, hbody, hfield, hmem, hlast, hlt⟩
    obtain ⟨before, hline, -⟩ := (afterFirst?_eq_some_iff (by decide)).mp hbody
    have hprocess : lengthFrom processLabel (process, behind) ≤ line.length := by
      rw [hline, List.length_append]
      exact (lengthFrom_lt hfield).le.trans (Nat.le_add_left _ _)
    have hcall : lengthFrom syscallLabel (digits, rest) ≤ line.length :=
      (lengthFrom_lt (List.mem_of_getLast? hlast)).le
    refine ⟨process, hmem, line.length - lengthFrom processLabel (process, behind),
      line.length - lengthFrom syscallLabel (digits, rest),
      (processAt_iff (hprocesses _ hmem)).mpr ⟨body, behind, hbody, hfield, ?_⟩,
      lastSyscallAt_iff.mpr ⟨rest, hlast, ?_⟩, ?_⟩
    · exact Nat.sub_add_cancel hprocess
    · exact Nat.sub_add_cancel hcall
    · simp only [lengthFrom] at hprocess hlt ⊢
      omega

/-- A line ends with any field behind its mark and what follows that. -/
theorem exists_front_of_mem_fields (hbody : afterFirst? mark line = some body)
    (hfield : (digits, rest) ∈ fields label body) :
    ∃ front, line = front ++ (label ++ digits ++ rest) := by
  obtain ⟨before, rfl, -⟩ := (afterFirst?_eq_some_iff (by decide)).mp hbody
  obtain ⟨⟨gap, rfl, -⟩, -⟩ := mem_fields_iff.mp hfield
  exact ⟨before ++ mark ++ gap, by simp only [List.append_assoc]⟩

/-- The last system call behind a process is the last one of the line, if it
is behind the process. -/
theorem getLast?_fields_behind_iff {process : List Char × List Char}
    (hbody : afterFirst? mark line = some body) (hprocess : process ∈ fields processLabel body) :
    (fields syscallLabel process.2).getLast? = some field ↔
      (fields syscallLabel line).getLast? = some field ∧
        lengthFrom syscallLabel field < process.2.length := by
  obtain ⟨front, hline⟩ := exists_front_of_mem_fields hbody hprocess
  rw [hline, ← List.append_assoc]
  exact getLast?_fields_append_iff

/-- A record in terms of the fields behind its mark. -/
theorem isRecord_iff_behind (hprocesses : ∀ process ∈ processes, IsDigits process) :
    IsRecord processes line digits ↔
      ∃ body process rest, afterFirst? mark line = some body ∧
        process ∈ fields processLabel body ∧ process.1 ∈ processes ∧
        (fields syscallLabel process.2).getLast? = some (digits, rest) := by
  rw [isRecord_iff hprocesses]
  constructor
  · rintro ⟨body, process, rest, hbody, hfield, hmem, hlast⟩
    exact ⟨body, process, rest, hbody, hfield, hmem,
      (getLast?_fields_behind_iff hbody hfield).mpr hlast⟩
  · rintro ⟨body, process, rest, hbody, hfield, hmem, hlast⟩
    exact ⟨body, process, rest, hbody, hfield, hmem,
      (getLast?_fields_behind_iff hbody hfield).mp hlast⟩

/-- The first field that serves is not behind any other. -/
theorem exists_find?_fields {p : List Char × List Char → Bool} (hfield : field ∈ fields label s)
    (hp : p field = true) : ∃ first, (fields label s).find? p = some first ∧
      lengthFrom label field ≤ lengthFrom label first := by
  have hordered := pairwise_fields label s
  obtain ⟨first, hfirst⟩ : ∃ first, (fields label s).find? p = some first := by
    rw [← Option.isSome_iff_exists, List.find?_isSome]
    exact ⟨field, hfield, hp⟩
  obtain ⟨-, before, after, hfields, hbefore⟩ := List.find?_eq_some_iff_append.mp hfirst
  refine ⟨first, hfirst, ?_⟩
  rw [hfields] at hfield hordered
  obtain ⟨-, hordered, -⟩ := List.pairwise_append.mp hordered
  rcases List.mem_append.mp hfield with hmem | hmem
  · have hnot := hbefore field hmem
    rw [hp] at hnot
    cases hnot
  · rcases List.mem_cons.mp hmem with rfl | hafter
    · exact Nat.le_refl _
    · exact Nat.le_of_lt ((List.pairwise_cons.mp hordered).1 field hafter)

/-- The search looks behind the first process field with a number from the
set.  If the last system call stands behind any such field, it stands behind
that one. -/
theorem recordDigits?_eq_some_iff (hprocesses : ∀ process ∈ processes, IsDigits process) :
    recordDigits? processes line = some digits ↔ IsRecord processes line digits := by
  simp only [recordDigits?, Option.bind_eq_bind, Option.bind_eq_some_iff, Option.pure_def,
    Option.some.injEq]
  constructor
  · rintro ⟨body, hbody, process, hfirst, ⟨_, rest⟩, hlast, rfl⟩
    have hcontains : processes.contains process.1 = true := by simpa using List.find?_some hfirst
    exact (isRecord_iff_behind hprocesses).mpr ⟨body, process, rest, hbody,
      List.mem_of_find?_eq_some hfirst, List.contains_iff_mem.mp hcontains, hlast⟩
  · intro hrecord
    obtain ⟨body, process, rest, hbody, hfield, hmem, hlast, hlt⟩ :=
      (isRecord_iff hprocesses).mp hrecord
    have hcontains : processes.contains process.1 = true := List.contains_iff_mem.mpr hmem
    obtain ⟨first, hfirst, hle⟩ :=
      @exists_find?_fields _ _ _ (fun field => processes.contains field.1) hfield hcontains
    have hfound := List.mem_of_find?_eq_some hfirst
    obtain ⟨front, hline⟩ := exists_front_of_mem_fields hbody hfound
    refine ⟨body, hbody, first, hfirst, (digits, rest), ?_, rfl⟩
    have hdigits : IsDigits first.1 := (mem_fields_iff.mp hfound).2.1
    rw [← fields_append_field isLabel_syscallLabel isLabel_processLabel hdigits]
    refine getLast?_fields_append_iff.mpr ⟨hline ▸ hlast, ?_⟩
    simp only [lengthFrom, List.length_append] at hle hlt ⊢
    omega

/-! ## Numbers of system calls -/

theorem callNumber?_eq_some_iff {id : Nat} : callNumber? digits = some id ↔
    (∀ c ∈ digits, c.isDigit = true) ∧ Nat.ofDigitChars 10 digits 0 = id ∧ id < 2 ^ 32 := by
  have hvalue : digits.foldl (fun value c => value * 10 + (c.toNat - 0x30)) 0 =
      Nat.ofDigitChars 10 digits 0 := by
    simp only [Nat.ofDigitChars_eq_foldl, Nat.mul_comm 10]
    rfl
  simp only [callNumber?, hvalue, List.all_eq_true, Option.ite_none_right_eq_some,
    Option.some.injEq]
  constructor
  · rintro ⟨hdigits, hlt, rfl⟩
    exact ⟨hdigits, rfl, hlt⟩
  · rintro ⟨hdigits, rfl, hlt⟩
    exact ⟨hdigits, hlt, rfl⟩

/-- Zeros in front of a number do not count. -/
theorem callNumber?_zeros_append (zeros : Nat) {id : Nat} (hid : id < 2 ^ 32) :
    callNumber? (List.replicate zeros '0' ++ Nat.toDigits 10 id) = some id := by
  refine callNumber?_eq_some_iff.mpr ⟨List.forall_mem_append.mpr ⟨?_, ?_⟩, ?_, hid⟩
  · intro c hc
    rw [List.eq_of_mem_replicate hc]
    rfl
  · exact fun c hc => Nat.isDigit_of_mem_toDigits (by decide) (by decide) hc
  · rw [Nat.ofDigitChars_append, Nat.ofDigitChars_replicate_zero, Nat.mul_zero,
      Nat.ofDigitChars_ten_toDigits]

end SyscallPolicy.AuditLog
