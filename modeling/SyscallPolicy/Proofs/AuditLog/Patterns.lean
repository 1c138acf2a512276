import SyscallPolicy.AuditLog.Pattern
import SyscallPolicy.Proofs.AuditLog.Processes

/-!
# The pattern and the search for records agree

`Pattern.results` tries the longest run first and gives back one character
after the other.  Read from the front of a text, that is: all that fits
further on is preferred to what fits here (`results_run_cons`).  So the ways
to fit a gap and a field behind it are the fields of the text, the last one
first (`results_gap`), and the whole pattern fits the fields of the processes
with the fields of system calls behind them (`ways`), the last ones first.

Behind whichever field of a process, the last system call is that of the
line, so it does not matter which of them is preferred.  A mark further on
has no fields behind it that the first one has not, so the search need not go
on behind the first mark (`searchFrom_eq`).  So `Pattern.search?` and
`recordDigits?` find the same digits, and those are the records
(`Pattern.search?_eq_some_iff`, `recordDigits?_eq_search?`).
-/

namespace SyscallPolicy.AuditLog

open Text (isDecimal isWord isWord_of_isDecimal)

variable {label digits text body line s : List Char} {c : Char} {before : Option Char}
  {captured : Option (List Char)} {processes : List (List Char)}

/-- Whether a line feed stands at most at the end. -/
def FeedsLast (s : List Char) : Prop :=
  '\n' ∉ s.dropLast

theorem FeedsLast.of_append (front : List Char) (h : FeedsLast (front ++ s)) : FeedsLast s := by
  by_cases hs : s = []
  · rw [hs]
    exact List.not_mem_nil
  · rw [FeedsLast, List.dropLast_append_of_ne_nil hs] at h
    exact fun hmem => h (List.mem_append_right front hmem)

namespace Pattern

/-! ## Patterns one behind the other -/

theorem results_seq {first second : Pattern} {p : Progress} :
    results (.seq first second) p = (results first p).flatMap (results second) :=
  rfl

theorem results_literal_append : results (.literal text) ⟨before, text ++ s, captured⟩ =
    [⟨text.getLast?.or before, s, captured⟩] := by
  have htext : text.isPrefixOf (text ++ s) = true :=
    List.isPrefixOf_iff_prefix.mpr (List.prefix_append text s)
  simp only [results, literalResults, htext, if_true, Progress.advance, List.take_left,
    List.drop_left]

theorem results_literal_eq_nil (htext : ¬text <+: s) :
    results (.literal text) ⟨before, s, captured⟩ = [] := by
  have hprefix : text.isPrefixOf s = false := by
    rwa [← Bool.not_eq_true, List.isPrefixOf_iff_prefix]
  simp only [results, literalResults, hprefix, Bool.false_eq_true, if_false]

/-- Behind a word character a boundary is the end of the word. -/
theorem results_boundary (hbefore : before.any isWord = true) :
    results .boundary ⟨before, s, captured⟩ =
      if endsWord s = true then [⟨before, s, captured⟩] else [] := by
  have hend : Progress.atBoundary ⟨before, s, captured⟩ = endsWord s := by
    rw [Progress.atBoundary, hbefore]
    cases s <;> simp [endsWord]
  rw [results, hend]

/-! ## Runs -/

theorem advance_cons_succ (n : Nat) : Progress.advance ⟨before, c :: s, captured⟩ (n + 1) =
    Progress.advance ⟨some c, s, captured⟩ n := by
  simp only [Progress.advance, List.take_succ_cons, List.drop_succ_cons, List.getLast?_cons,
    Option.some_or]
  cases (s.take n).getLast? <;> rfl

/-- A run that can go on prefers to, and stops here at last. -/
theorem results_run_cons {member : Char → Bool} (hc : member c = true) :
    results (.run member) ⟨before, c :: s, captured⟩ =
      results (.run member) ⟨some c, s, captured⟩ ++ [⟨some c, s, captured⟩] := by
  have hlength : ((c :: s).takeWhile member).length = (s.takeWhile member).length + 1 := by
    rw [List.takeWhile_cons_of_pos hc, List.length_cons]
  simp only [results, hlength]
  rw [List.range_succ_eq_map, List.reverse_cons, List.map_append, ← List.map_reverse, List.map_map]
  simp only [Function.comp_def, advance_cons_succ]
  rfl

theorem results_run_eq_nil {member : Char → Bool} (hs : s.takeWhile member = []) :
    results (.run member) ⟨before, s, captured⟩ = [] := by
  simp only [results, hs, List.length_nil, List.range_zero, List.reverse_nil, List.map_nil]

theorem results_seq_run_cons {member : Char → Bool} {next : Pattern} (hc : member c = true) :
    results (.seq (.run member) next) ⟨before, c :: s, captured⟩ =
      results (.seq (.run member) next) ⟨some c, s, captured⟩ ++
        results next ⟨some c, s, captured⟩ := by
  simp only [results_seq, results_run_cons hc, List.flatMap_append, List.flatMap_singleton]

theorem results_seq_run_eq_nil {member : Char → Bool} {next : Pattern}
    (hs : s.takeWhile member = []) :
    results (.seq (.run member) next) ⟨before, s, captured⟩ = [] := by
  rw [results_seq, results_run_eq_nil hs, List.flatMap_nil]

/-! ## The contents of fields -/

theorem endsWord_append_eq_false (hdigits : IsDigits digits) : endsWord (digits ++ s) = false := by
  obtain ⟨d, rest, rfl⟩ := List.exists_cons_of_ne_nil hdigits.1
  rw [List.cons_append, endsWord, isWord_of_isDecimal (hdigits.2 d List.mem_cons_self)]
  rfl

/-- Digits are only taken as a whole: a word ends nowhere inside of them. -/
theorem results_digits_append (hdigits : ∀ c ∈ digits, isDecimal c = true)
    (hs : s.takeWhile isDecimal = []) :
    results (.seq (.run isDecimal) .boundary) ⟨before, digits ++ s, captured⟩ =
      if digits ≠ [] ∧ endsWord s = true then [⟨digits.getLast?, s, captured⟩] else [] := by
  induction digits generalizing before with
  | nil => rw [List.nil_append, results_seq_run_eq_nil hs, if_neg fun h => h.1 rfl]
  | cons d digits ih =>
    obtain ⟨hd, hdigits⟩ := List.forall_mem_cons.mp hdigits
    have hword : (some d).any isWord = true := isWord_of_isDecimal hd
    rw [List.cons_append, results_seq_run_cons hd, ih hdigits, results_boundary hword]
    cases digits with
    | nil => simp
    | cons e digits =>
      have hinside : endsWord (e :: digits ++ s) = false :=
        endsWord_append_eq_false ⟨List.cons_ne_nil e digits, hdigits⟩
      rw [hinside, if_neg Bool.false_ne_true, List.append_nil]
      simp only [ne_eq, List.cons_ne_nil, not_false_eq_true, true_and, List.getLast?_cons_cons]

/-- What a content may find that is made of the digits in front and ends with
them.  A field is given by its digits and what follows them. -/
def IsContent (content : Pattern) (captured : Option (List Char))
    (found : List Char × List Char → List Progress) : Prop :=
  ∀ before digits s, (∀ c ∈ digits, isDecimal c = true) → s.takeWhile isDecimal = [] →
    results content ⟨before, digits ++ s, captured⟩ =
      if digits ≠ [] ∧ endsWord s = true then found (digits, s) else []

/-- A boundary does not look at what is reported. -/
theorem results_capture_boundary (inner : Pattern) (p : Progress) :
    results (.seq (.capture inner) .boundary) p = (results (.seq inner .boundary) p).map fun q =>
      { q with captured := some (p.ahead.take (p.ahead.length - q.ahead.length)) } := by
  rw [results_seq, results_seq, results, List.flatMap_map, List.map_flatMap]
  refine List.flatMap_congr fun q _ => ?_
  rw [results, results]
  change (if q.atBoundary = true then _ else _) = _
  split <;> rfl

theorem isContent_capture (captured : Option (List Char)) :
    IsContent (.seq (.capture (.run isDecimal)) .boundary) captured
      fun field => [⟨field.1.getLast?, field.2, some field.1⟩] := by
  intro before digits s hdigits hs
  rw [results_capture_boundary, results_digits_append hdigits hs]
  split
  · simp
  · rfl

theorem prefix_of_prefix_digits (htext : ∀ c ∈ text, isDecimal c = true)
    (hs : s.takeWhile isDecimal = []) (hbegins : text <+: digits ++ s) : text <+: digits := by
  obtain ⟨after, hafter⟩ := hbegins
  rcases List.append_eq_append_iff.mp hafter with ⟨more, rfl, -⟩ | ⟨more, rfl, rfl⟩
  · exact List.prefix_append text more
  · cases more with
    | nil => simp only [List.append_nil, List.prefix_rfl]
    | cons d more =>
      rw [List.cons_append, List.takeWhile_cons_of_pos (htext d (by simp))] at hs
      cases hs

/-- A process is taken if it is all of the digits in front. -/
theorem results_process_append {process : List Char} {next : Pattern} (hprocess : IsDigits process)
    (hdigits : ∀ c ∈ digits, isDecimal c = true) (hs : s.takeWhile isDecimal = []) :
    results (.seq (.literal process) (.seq .boundary next)) ⟨before, digits ++ s, captured⟩ =
      if process = digits ∧ endsWord s = true then results next ⟨digits.getLast?, s, captured⟩
      else [] := by
  by_cases hprefix : process <+: digits ++ s
  · obtain ⟨d, hd⟩ : ∃ d, process.getLast? = some d :=
      Option.ne_none_iff_exists'.mp (mt List.getLast?_eq_none_iff.mp hprocess.1)
    have hword : (some d).any isWord = true :=
      isWord_of_isDecimal (hprocess.2 d (List.mem_of_getLast? hd))
    obtain ⟨more, rfl⟩ : process <+: digits := prefix_of_prefix_digits hprocess.2 hs hprefix
    rw [results_seq, List.append_assoc, results_literal_append, List.flatMap_singleton, results_seq,
      hd, Option.some_or, results_boundary hword]
    by_cases hmore : more = []
    · rw [hmore, List.nil_append, List.append_nil, hd]
      by_cases hend : endsWord s = true
      · rw [if_pos hend, if_pos ⟨rfl, hend⟩, List.flatMap_singleton]
      · rw [if_neg hend, if_neg fun h => hend h.2, List.flatMap_nil]
    · have hinside : endsWord (more ++ s) = false :=
        endsWord_append_eq_false ⟨hmore, (List.forall_mem_append.mp hdigits).2⟩
      rw [hinside, if_neg Bool.false_ne_true, List.flatMap_nil, if_neg]
      rintro ⟨hall, -⟩
      exact hmore (List.self_eq_append_right.mp hall)
  · have hne : ¬(process = digits ∧ endsWord s = true) := by
      rintro ⟨rfl, -⟩
      exact hprefix (List.prefix_append process s)
    rw [results_seq, results_literal_eq_nil hprefix, List.flatMap_nil, if_neg hne]

theorem isContent_oneOf (hprocesses : ∀ process ∈ processes, IsDigits process)
    (captured : Option (List Char)) (next : Pattern) :
    IsContent (.seq (.oneOf processes) (.seq .boundary next)) captured
      fun field => processes.flatMap fun process =>
        if process = field.1 then results next ⟨field.1.getLast?, field.2, captured⟩ else [] := by
  intro before digits s hdigits hs
  have heach : results (.seq (.oneOf processes) (.seq .boundary next))
      ⟨before, digits ++ s, captured⟩ = processes.flatMap fun process =>
        if process = digits ∧ endsWord s = true then results next ⟨digits.getLast?, s, captured⟩
        else [] := by
    rw [results_seq, results, List.flatMap_assoc]
    exact List.flatMap_congr fun process hprocess =>
      results_process_append (hprocesses process hprocess) hdigits hs
  rw [heach]
  split
  case isTrue h => simp only [h.2, and_true]
  case isFalse h =>
    refine List.flatMap_eq_nil_iff.mpr fun process hprocess => if_neg ?_
    rintro ⟨rfl, hend⟩
    exact h ⟨(hprocesses _ hprocess).1, hend⟩

/-! ## Gaps with fields behind them -/

theorem takeWhile_dropWhile_eq_nil (p : Char → Bool) (s : List Char) :
    (s.dropWhile p).takeWhile p = [] := by
  cases hrest : s.dropWhile p with
  | nil => rfl
  | cons c rest =>
    have hc : p c = false := by
      have hhead := List.head_dropWhile_not p (l := s) (by simp [hrest])
      simpa only [hrest, List.head_cons] using hhead
    rw [List.takeWhile_cons_of_neg (by rw [hc]; exact Bool.false_ne_true)]

theorem fieldAt?_label_append : fieldAt? label (label ++ s) =
    if s.takeWhile isDecimal ≠ [] ∧ endsWord (s.dropWhile isDecimal) = true then
      some (s.takeWhile isDecimal, s.dropWhile isDecimal)
    else none := by
  have hlabel : label.isPrefixOf (label ++ s) = true :=
    List.isPrefixOf_iff_prefix.mpr (List.prefix_append label s)
  rw [fieldAt?, if_pos hlabel, List.drop_left]

theorem eq_of_mem_boundary {p q : Progress} (hq : q ∈ results .boundary p) : q = p := by
  rw [results] at hq
  split at hq
  · exact List.mem_singleton.mp hq
  · cases hq

/-- A field begins with a boundary, since its label begins with a letter. -/
theorem results_field {content : Pattern} {found : List Char × List Char → List Progress}
    (hlabel : ∃ d ∈ label.head?, isWord d = true) (hcontent : IsContent content captured found) :
    results (.seq .boundary (.seq (.literal label) content)) ⟨some c, s, captured⟩ =
      if isWord c = true then [] else (fieldAt? label s).toList.flatMap found := by
  by_cases hprefix : label <+: s
  · obtain ⟨after, rfl⟩ := hprefix
    obtain ⟨d, hd, hword⟩ := hlabel
    have hboundary : Progress.atBoundary ⟨some c, label ++ after, captured⟩ = !isWord c := by
      rw [Progress.atBoundary, List.head?_append, hd, Option.some_or, Option.any_some,
        Option.any_some, hword, Bool.bne_true]
    have hfound (before : Option Char) := hcontent before (after.takeWhile isDecimal)
      (after.dropWhile isDecimal) (fun _ => List.mem_takeWhile_imp)
      (takeWhile_dropWhile_eq_nil isDecimal after)
    simp only [List.takeWhile_append_dropWhile] at hfound
    rw [results_seq, results, hboundary]
    cases isWord c with
    | true => rfl
    | false =>
      rw [Bool.not_false, if_pos rfl, List.flatMap_singleton, results_seq, results_literal_append,
        List.flatMap_singleton, hfound, fieldAt?_label_append, if_neg Bool.false_ne_true]
      split <;> simp
  · have hnone : fieldAt? label s = none := by
      rw [fieldAt?, if_neg fun h => hprefix (List.isPrefixOf_iff_prefix.mp h)]
    have hnil : results (.seq .boundary (.seq (.literal label) content)) ⟨some c, s, captured⟩ =
        [] := by
      rw [results_seq]
      refine List.flatMap_eq_nil_iff.mpr fun q hq => ?_
      rw [eq_of_mem_boundary hq, results_seq, results_literal_eq_nil hprefix, List.flatMap_nil]
    rw [hnone, hnil]
    split <;> rfl

/-- Behind a gap, the last field of the text goes first. -/
theorem results_gap {content : Pattern} {found : List Char × List Char → List Progress}
    (hlabel : ∃ d ∈ label.head?, isWord d = true) (hcontent : IsContent content captured found)
    (hs : FeedsLast s) :
    results (.seq (.run (· ≠ '\n')) (.seq .boundary (.seq (.literal label) content)))
      ⟨before, s, captured⟩ = (fields label s).reverse.flatMap found := by
  induction s generalizing before with
  | nil => exact results_seq_run_eq_nil rfl
  | cons c s ih =>
    by_cases hc : c = '\n'
    · obtain rfl : s = [] := by
        by_contra hne
        refine hs ?_
        rw [hc, List.dropLast_cons_of_ne_nil hne]
        exact List.mem_cons_self
      have hnone : fieldAt? label [] = none := by
        obtain ⟨d, hd, -⟩ := hlabel
        obtain ⟨tail, rfl⟩ := List.head?_eq_some_iff.mp hd
        rfl
      rw [results_seq_run_eq_nil (List.takeWhile_cons_of_neg (by simp [hc])),
        fields_cons_of_none hnone]
      rfl
    · have hmember : decide (c ≠ '\n') = true := decide_eq_true hc
      rw [results_seq_run_cons hmember, ih (FeedsLast.of_append [c] hs),
        results_field hlabel hcontent]
      rcases fields_cons_cases label c s with
        ⟨hfields, hword | hnone⟩ | ⟨field, hfields, hword, hfield⟩
      · rw [hfields, hword, if_pos rfl, List.append_nil]
      · rw [hfields, hnone]
        simp
      · rw [hfields, hword, hfield, List.reverse_cons, List.flatMap_append, List.flatMap_singleton]
        simp

/-! ## The pattern of a record -/

/-- The ways to fit what the pattern of a record has behind the mark. -/
def ways (processes : List (List Char)) (body : List Char) : List Progress :=
  (fields processLabel body).reverse.flatMap fun process => processes.flatMap fun text =>
    if text = process.1 then
      (fields syscallLabel process.2).reverse.map fun call =>
        ⟨call.1.getLast?, call.2, some call.1⟩
    else []

theorem ofRecord_eq_seq (processes : List (List Char)) : ofRecord processes =
    .seq (.literal mark) (.seq (.run (· ≠ '\n')) (.seq .boundary (.seq (.literal processLabel)
      (.seq (.oneOf processes) (.seq .boundary (.seq (.run (· ≠ '\n')) (.seq .boundary
        (.seq (.literal syscallLabel) (.seq (.capture (.run isDecimal)) .boundary))))))))) :=
  rfl

theorem results_ofRecord (hprocesses : ∀ process ∈ processes, IsDigits process)
    (hbody : FeedsLast body) :
    results (.ofRecord processes) ⟨before, mark ++ body, captured⟩ = ways processes body := by
  have hprocess : ∃ d ∈ processLabel.head?, isWord d = true := ⟨'p', rfl, by decide +kernel⟩
  have hcall : ∃ d ∈ syscallLabel.head?, isWord d = true := ⟨'s', rfl, by decide +kernel⟩
  rw [ofRecord_eq_seq, results_seq, results_literal_append, List.flatMap_singleton,
    results_gap hprocess (isContent_oneOf hprocesses captured _) hbody]
  refine List.flatMap_congr fun field hfield => List.flatMap_congr fun text _ => ?_
  obtain ⟨⟨gap, hgap, -⟩, -⟩ := mem_fields_iff.mp (List.mem_reverse.mp hfield)
  have hrest : FeedsLast field.2 := FeedsLast.of_append _ (hgap ▸ hbody)
  rw [results_gap hcall (isContent_capture captured) hrest, List.map_eq_flatMap]

theorem results_ofRecord_eq_nil (hline : ¬mark <+: line) :
    results (.ofRecord processes) ⟨before, line, captured⟩ = [] := by
  rw [ofRecord_eq_seq, results_seq, results_literal_eq_nil hline, List.flatMap_nil]

theorem ways_eq_nil_iff : ways processes body = [] ↔ ∀ process ∈ fields processLabel body,
    process.1 ∈ processes → fields syscallLabel process.2 = [] := by
  simp only [ways, List.flatMap_eq_nil_iff, List.mem_reverse, ite_eq_right_iff,
    List.map_eq_nil_iff, List.reverse_eq_nil_iff]
  constructor
  · exact fun h process hprocess hmem => h process hprocess process.1 hmem rfl
  · rintro h process hprocess _ hmem rfl
    exact h process hprocess hmem

/-- A part further on has no other ways to fit. -/
theorem ways_eq_nil_of_suffix (hs : s <:+ body) (hbody : ways processes body = []) :
    ways processes s = [] := by
  obtain ⟨front, rfl⟩ := hs
  exact ways_eq_nil_iff.mpr fun process hprocess =>
    ways_eq_nil_iff.mp hbody process ((suffix_fields_append processLabel front s).subset hprocess)

/-- Behind every process the last system call goes first. -/
theorem head?_ways_eq_some {found : Progress} (hfound : (ways processes body).head? = some found) :
    ∃ process ∈ fields processLabel body, process.1 ∈ processes ∧
      ∃ call, (fields syscallLabel process.2).getLast? = some call ∧
        found = ⟨call.1.getLast?, call.2, some call.1⟩ := by
  rw [ways, List.head?_flatMap] at hfound
  obtain ⟨process, hprocess, hfound⟩ := List.exists_of_findSome?_eq_some hfound
  rw [List.head?_flatMap] at hfound
  obtain ⟨text, htext, hfound⟩ := List.exists_of_findSome?_eq_some hfound
  split at hfound
  case isTrue heq =>
    rw [List.head?_map, List.head?_reverse, Option.map_eq_some_iff] at hfound
    obtain ⟨call, hcall, rfl⟩ := hfound
    exact ⟨process, List.mem_reverse.mp hprocess, heq ▸ htext, call, hcall, rfl⟩
  case isFalse => cases hfound

/-! ## The search -/

/-- What follows a later mark is the end of what follows an earlier one. -/
theorem suffix_of_afterFirst? (hs : mark ++ body = c :: line)
    (hrest : afterFirst? mark line = some s) : s <:+ body := by
  obtain ⟨gap, rfl, -⟩ := (afterFirst?_eq_some_iff (by decide)).mp hrest
  have hbody : body <:+ c :: (gap ++ mark ++ s) := hs ▸ List.suffix_append mark body
  have htail : s <:+ c :: (gap ++ mark ++ s) := List.suffix_append (c :: (gap ++ mark)) s
  refine List.suffix_of_suffix_length_le htail hbody ?_
  have hlength := congrArg List.length hs
  simp only [mark, List.length_append, List.length_cons, List.length_nil] at hlength
  omega

/-- If the pattern does not fit at the first mark, it fits nowhere. -/
theorem searchFrom_eq (hprocesses : ∀ process ∈ processes, IsDigits process)
    (hline : FeedsLast line) : searchFrom (.ofRecord processes) before line =
      (afterFirst? mark line).bind fun body => (ways processes body).head? := by
  induction line generalizing before with
  | nil => rfl
  | cons c line ih =>
    have hrest : FeedsLast line := FeedsLast.of_append [c] hline
    by_cases hprefix : mark <+: c :: line
    · obtain ⟨body, hbody⟩ := hprefix
      have hfirst : afterFirst? mark (c :: line) = some body := by
        rw [afterFirst?, ← hbody, List.drop_left,
          if_pos (List.isPrefixOf_iff_prefix.mpr (List.prefix_append mark body))]
      have hresults : results (.ofRecord processes) ⟨before, c :: line, none⟩ =
          ways processes body := by
        rw [← hbody] at hline ⊢
        exact results_ofRecord hprocesses (FeedsLast.of_append mark hline)
      rw [searchFrom, hresults, ih hrest, hfirst, Option.bind_some]
      cases hways : (ways processes body).head? with
      | some found => rfl
      | none =>
        have hnil : ways processes body = [] := List.head?_eq_none_iff.mp hways
        refine Option.bind_eq_none_iff.mpr fun s hs => List.head?_eq_none_iff.mpr ?_
        exact ways_eq_nil_of_suffix (suffix_of_afterFirst? hbody hs) hnil
    · have hfirst : afterFirst? mark (c :: line) = afterFirst? mark line := by
        rw [afterFirst?, if_neg fun h => hprefix (List.isPrefixOf_iff_prefix.mp h)]
      rw [searchFrom, results_ofRecord_eq_nil hprefix, hfirst, ← ih hrest]
      rfl

end Pattern

/-! ## What the search finds -/

/-- A line is a record if any system call stands behind a process. -/
theorem exists_isRecord_iff : (∃ digits, IsRecord processes line digits) ↔
    ∃ process ∈ processes, ∃ i digits j, ProcessAt line process i ∧ SyscallAt line digits j ∧
      i + processLabel.length + process.length < j := by
  constructor
  · rintro ⟨digits, process, hmem, i, j, hprocess, hlast, hlt⟩
    exact ⟨process, hmem, i, digits, j, hprocess, hlast.1, hlt⟩
  · rintro ⟨process, hmem, i, digits, j, hprocess, hcall, hlt⟩
    obtain ⟨last, later, hlast, hle⟩ := exists_lastSyscallAt hcall
    exact ⟨last, process, hmem, i, later, hprocess, hlast, hlt.trans_le hle⟩

theorem Pattern.isRecord_of_searchFrom (hprocesses : ∀ process ∈ processes, IsDigits process)
    (hline : FeedsLast line) {found : Progress}
    (hfound : Pattern.searchFrom (.ofRecord processes) before line = some found) :
    ∃ digits, IsRecord processes line digits ∧ found.captured = some digits := by
  rw [searchFrom_eq hprocesses hline, Option.bind_eq_some_iff] at hfound
  obtain ⟨body, hbody, hhead⟩ := hfound
  obtain ⟨process, hfield, hmem, ⟨digits, rest⟩, hlast, rfl⟩ := head?_ways_eq_some hhead
  exact ⟨digits,
    (isRecord_iff_behind hprocesses).mpr ⟨body, process, rest, hbody, hfield, hmem, hlast⟩, rfl⟩

theorem Pattern.exists_searchFrom_of_isRecord
    (hprocesses : ∀ process ∈ processes, IsDigits process) (hline : FeedsLast line)
    (hrecord : IsRecord processes line digits) :
    ∃ found, Pattern.searchFrom (.ofRecord processes) before line = some found := by
  obtain ⟨body, process, rest, hbody, hfield, hmem, hlast⟩ :=
    (isRecord_iff_behind hprocesses).mp hrecord
  have hways : ways processes body ≠ [] := by
    intro hnil
    rw [ways_eq_nil_iff.mp hnil process hfield hmem] at hlast
    cases hlast
  rw [searchFrom_eq hprocesses hline, hbody, Option.bind_some]
  exact Option.ne_none_iff_exists'.mp (mt List.head?_eq_none_iff.mp hways)

theorem Pattern.search?_eq_some_iff (hprocesses : ∀ process ∈ processes, IsDigits process)
    (hline : FeedsLast line) :
    Pattern.search? (.ofRecord processes) line = some digits ↔ IsRecord processes line digits := by
  rw [search?, Option.bind_eq_some_iff]
  constructor
  · rintro ⟨found, hfound, hcaptured⟩
    obtain ⟨digits', hrecord, hcaptured'⟩ := isRecord_of_searchFrom hprocesses hline hfound
    obtain rfl : digits' = digits := Option.some.inj (hcaptured'.symm.trans hcaptured)
    exact hrecord
  · intro hrecord
    obtain ⟨found, hfound⟩ := exists_searchFrom_of_isRecord hprocesses hline hrecord
    obtain ⟨digits', hrecord', hcaptured⟩ := isRecord_of_searchFrom hprocesses hline hfound
    rw [hrecord'.digits_unique hrecord] at hcaptured
    exact ⟨found, hfound, hcaptured⟩

/-- The search by fields finds what the search with the pattern finds. -/
theorem recordDigits?_eq_search? (hprocesses : ∀ process ∈ processes, IsDigits process)
    (hline : FeedsLast line) :
    recordDigits? processes line = Pattern.search? (.ofRecord processes) line := by
  ext digits
  rw [recordDigits?_eq_some_iff hprocesses, Pattern.search?_eq_some_iff hprocesses hline]

/-- The pattern fits a line if and only if a system call stands behind a
process that is asked for; it reports the last system call of the line.  That
is the number of the line if it is an ASCII number of 32 bits, whatever zeros
it begins with.  Else the line has none. -/
theorem pattern_finds_records (pids : List Int) (line : List Char) (hpids : ∀ pid ∈ pids, 0 ≤ pid)
    (hline : FeedsLast line) :
    ((∃ found, Pattern.searchFrom (.ofRecord (processTexts pids)) none line = some found) ↔
      ∃ process ∈ processTexts pids, ∃ i digits j, ProcessAt line process i ∧
        SyscallAt line digits j ∧ i + processLabel.length + process.length < j) ∧
    (∀ found, Pattern.searchFrom (.ofRecord (processTexts pids)) none line = some found →
      ∃ digits j, LastSyscallAt line digits j ∧ found.captured = some digits) ∧
    (∀ id, syscallId? pids line = some id ↔
      ∃ digits, Pattern.search? (.ofRecord (processTexts pids)) line = some digits ∧
        (∀ c ∈ digits, c.isDigit = true) ∧ Nat.ofDigitChars 10 digits 0 = id ∧ id < 2 ^ 32) ∧
    ∀ zeros id, id < 2 ^ 32 → Pattern.search? (.ofRecord (processTexts pids)) line =
      some (List.replicate zeros '0' ++ Nat.toDigits 10 id) → syscallId? pids line = some id := by
  have hprocesses := isDigits_of_mem_processTexts hpids
  have hid (id : Nat) : syscallId? pids line = some id ↔
      ∃ digits, Pattern.search? (.ofRecord (processTexts pids)) line = some digits ∧
        callNumber? digits = some id := by
    rw [syscallId?, recordDigits?_eq_search? hprocesses hline]
    exact Option.bind_eq_some_iff
  refine ⟨?_, ?_, ?_, ?_⟩
  · rw [← exists_isRecord_iff]
    constructor
    · rintro ⟨found, hfound⟩
      obtain ⟨digits, hrecord, -⟩ := Pattern.isRecord_of_searchFrom hprocesses hline hfound
      exact ⟨digits, hrecord⟩
    · rintro ⟨digits, hrecord⟩
      exact Pattern.exists_searchFrom_of_isRecord hprocesses hline hrecord
  · intro found hfound
    obtain ⟨digits, ⟨_, _, _, j, _, hlast, _⟩, hcaptured⟩ :=
      Pattern.isRecord_of_searchFrom hprocesses hline hfound
    exact ⟨digits, j, hlast, hcaptured⟩
  · intro id
    simp only [hid, callNumber?_eq_some_iff]
  · intro zeros id hlt hsearch
    exact (hid id).mpr ⟨_, hsearch, callNumber?_zeros_append zeros hlt⟩

/-- The numbers of other processes and earlier calls are passed over, and
zeros in front do not count; a last call of more than 32 bits leaves its line
without a number. -/
theorem pattern_finds_last_call : ∃ line other : List Char,
    line = "audit: pid=1 pid=150 syscall=59 pid=15 comm= syscall=007\n".toList ∧
    other = "audit: pid=1 syscall=2 syscall=4294967296\n".toList ∧
    (∀ pid ∈ [(15 : Int)], 0 ≤ pid) ∧ (∀ pid ∈ [(1 : Int), 15], 0 ≤ pid) ∧
    FeedsLast line ∧ FeedsLast other ∧
    (∃ found, Pattern.searchFrom (.ofRecord (processTexts [15])) none line = some found ∧
      ∃ digits j, LastSyscallAt line digits j ∧ found.captured = some digits) ∧
    syscallId? [15] line = some 7 ∧
    (∃ process ∈ processTexts [1, 15], ∃ i digits j, ProcessAt other process i ∧
      SyscallAt other digits j ∧ i + processLabel.length + process.length < j) ∧
    ∀ id, syscallId? [1, 15] other ≠ some id := by
  obtain ⟨line, hline⟩ : ∃ line : List Char,
      line = "audit: pid=1 pid=150 syscall=59 pid=15 comm= syscall=007\n".toList := ⟨_, rfl⟩
  obtain ⟨other, hother⟩ : ∃ other : List Char,
      other = "audit: pid=1 syscall=2 syscall=4294967296\n".toList := ⟨_, rfl⟩
  have hpid : ∀ pid ∈ [(15 : Int)], 0 ≤ pid := by decide
  have hpids : ∀ pid ∈ [(1 : Int), 15], 0 ≤ pid := by decide
  have hlast : '\n' ∉ line.dropLast := by
    subst hline
    decide +kernel
  have hlast' : '\n' ∉ other.dropLast := by
    subst hother
    decide +kernel
  have hsearch : Pattern.search? (.ofRecord (processTexts [15])) line =
      some (List.replicate 2 '0' ++ Nat.toDigits 10 7) := by
    subst hline
    decide +kernel
  have hsearch' : Pattern.search? (.ofRecord (processTexts [1, 15])) other =
      some "4294967296".toList := by
    subst hother
    decide +kernel
  obtain ⟨found, hfound, -⟩ := Option.bind_eq_some_iff.mp hsearch
  obtain ⟨found', hfound', -⟩ := Option.bind_eq_some_iff.mp hsearch'
  obtain ⟨-, hreported, -, hnumber⟩ := pattern_finds_records [15] line hpid hlast
  obtain ⟨hfits, -, hnumber', -⟩ := pattern_finds_records [1, 15] other hpids hlast'
  refine ⟨line, other, hline, hother, hpid, hpids, hlast, hlast',
    ⟨found, hfound, hreported found hfound⟩, hnumber 2 7 (by decide) hsearch,
    hfits.mp ⟨found', hfound'⟩, fun id hid => ?_⟩
  obtain ⟨digits, hdigits, -, hvalue, hlt⟩ := (hnumber' id).mp hid
  obtain rfl : "4294967296".toList = digits := Option.some.inj (hsearch'.symm.trans hdigits)
  rw [← hvalue] at hlt
  exact absurd hlt (by decide +kernel)

end SyscallPolicy.AuditLog
