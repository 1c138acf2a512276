import SyscallPolicy.Proofs.AuditLog.FirstQuery
import SyscallPolicy.Proofs.AuditLog.Records

/-!
# Discoveries for several processes

A line records its last system call or nothing, for whichever processes it is
asked; they only decide which of the two (`lineId?_eq_some_iff`).  So a line
that is a record for more processes is one for some of them, with the same
number, and a discovery for several processes puts together what there is for
each.

* `lineId?_append_iff`, `lineId?_unique` and `lineId?_congr`: one line;
* `hasObstacle_append_iff` and `mem_namesIn_append_iff`: the lines of a log;
* `query_append` and `query_congr`: the first query.
-/

namespace SyscallPolicy.AuditLog

variable {A B P Q pids : List Int} {line : Line} {lines : List Line} {id : Nat} {name : String}

/-! ## What a line records -/

theorem isDigits_of_mem_processTexts (hpids : ∀ pid ∈ pids, 0 ≤ pid) :
    ∀ process ∈ processTexts pids, IsDigits process := by
  intro process hprocess
  obtain ⟨pid, hpid, rfl⟩ := List.mem_map.mp hprocess
  obtain ⟨n, rfl⟩ := Int.eq_ofNat_of_zero_le (hpids pid hpid)
  have htext : (toString (n : Int)).toList = Nat.toDigits 10 n := Nat.toList_repr
  rw [htext]
  exact ⟨Nat.toDigits_ne_nil, fun c hc =>
    Text.isDecimal_of_isDigit (Nat.isDigit_of_mem_toDigits (by decide) (by decide) hc)⟩

theorem lineId?_eq_some_iff (hpids : ∀ pid ∈ pids, 0 ≤ pid) : lineId? pids line = some id ↔
    ∃ digits, IsRecord (processTexts pids) (Text.decodeLossy line) digits ∧
      callNumber? digits = some id := by
  simp only [lineId?, syscallId?, Option.bind_eq_bind, Option.bind_eq_some_iff,
    recordDigits?_eq_some_iff (isDigits_of_mem_processTexts hpids)]

theorem lineId?_append_iff (hA : ∀ pid ∈ A, 0 ≤ pid) (hB : ∀ pid ∈ B, 0 ≤ pid) :
    lineId? (A ++ B) line = some id ↔ lineId? A line = some id ∨ lineId? B line = some id := by
  have htexts : processTexts (A ++ B) = processTexts A ++ processTexts B := List.map_append
  rw [lineId?_eq_some_iff (List.forall_mem_append.mpr ⟨hA, hB⟩), lineId?_eq_some_iff hA,
    lineId?_eq_some_iff hB, htexts]
  simp only [isRecord_append_iff, or_and_right, exists_or]

theorem lineId?_unique (hP : ∀ pid ∈ P, 0 ≤ pid) (hQ : ∀ pid ∈ Q, 0 ≤ pid) {i j : Nat}
    (hi : lineId? P line = some i) (hj : lineId? Q line = some j) : i = j := by
  obtain ⟨digits, hrecord, hvalue⟩ := (lineId?_eq_some_iff hP).mp hi
  obtain ⟨digits', hrecord', hvalue'⟩ := (lineId?_eq_some_iff hQ).mp hj
  obtain rfl := hrecord.digits_unique hrecord'
  exact Option.some.inj (hvalue.symm.trans hvalue')

theorem lineId?_congr (hsame : ∀ pid, pid ∈ P ↔ pid ∈ Q) (hP : ∀ pid ∈ P, 0 ≤ pid) :
    lineId? P line = lineId? Q line := by
  have hQ : ∀ pid ∈ Q, 0 ≤ pid := fun pid hpid => hP pid ((hsame pid).mpr hpid)
  have htexts (process) : process ∈ processTexts P ↔ process ∈ processTexts Q := by
    simp only [processTexts, List.mem_map, hsame]
  ext id
  simp only [lineId?_eq_some_iff hP, lineId?_eq_some_iff hQ, IsRecord, htexts]

/-! ## What the lines of a log record -/

theorem hasObstacle_append_iff (hA : ∀ pid ∈ A, 0 ≤ pid) (hB : ∀ pid ∈ B, 0 ≤ pid) :
    HasObstacle (A ++ B) lines ↔ HasObstacle A lines ∨ HasObstacle B lines := by
  simp only [HasObstacle, lineId?_append_iff hA hB, or_and_right, exists_or, and_or_left]

theorem mem_namesIn_append_iff (hA : ∀ pid ∈ A, 0 ≤ pid) (hB : ∀ pid ∈ B, 0 ≤ pid) :
    name ∈ namesIn (A ++ B) [] lines ↔ name ∈ namesIn A [] lines ∨ name ∈ namesIn B [] lines := by
  simp only [mem_namesIn_iff, lineId?_append_iff hA hB, or_and_right, exists_or, and_or_left]

/-- Processes count only by what lines record for them. -/
theorem scan_congr (hlines : ∀ line, lineId? P line = lineId? Q line) (seen : List Nat)
    (lines : List Line) : scan P seen lines = scan Q seen lines := by
  induction lines generalizing seen with
  | nil => rfl
  | cons line lines ih => simp only [scan, hlines, ih]

/-! ## The first query -/

theorem isSearchable_congr (hsame : ∀ pid, pid ∈ P ↔ pid ∈ Q) :
    isSearchable P = isSearchable Q := by
  rw [Bool.eq_iff_iff]
  simp only [isSearchable_iff, ne_eq, List.eq_nil_iff_forall_not_mem, hsame]

/-- Only the set of the processes counts. -/
theorem query_congr (stream : ByteStream) (hsame : ∀ pid, pid ∈ P ↔ pid ∈ Q) :
    (ofStream stream P).query.1 = (ofStream stream Q).query.1 := by
  have hsearchable := isSearchable_congr hsame
  cases hP : isSearchable P with
  | false =>
    have hQ : isSearchable Q = false := hsearchable ▸ hP
    rw [query_of_not_isSearchable hP, query_of_not_isSearchable hQ]
  | true =>
    have hQ : isSearchable Q = true := hsearchable ▸ hP
    have hlines (line) : lineId? P line = lineId? Q line :=
      lineId?_congr hsame (isSearchable_iff.mp hP).2
    simp only [query, ofStream, hP, hQ, if_true, scan_congr hlines]
    rcases scan Q [] stream.lines with ⟨_ | _, _⟩
    · rfl
    · cases stream.fault <;> rfl

/-- The first query for processes that there can be, on a log that is read to
its end. -/
theorem query_of_processes (stream : ByteStream) (hfault : stream.fault = none) (hsome : pids ≠ [])
    (hpids : ∀ pid ∈ pids, 0 ≤ pid) :
    (IsUnsupported (ofStream stream pids).query.1 ↔ HasObstacle pids stream.lines) ∧
      (¬HasObstacle pids stream.lines →
        (ofStream stream pids).query.1 = .ok (discovery (namesIn pids [] stream.lines))) := by
  have hsearchable : isSearchable pids = true := isSearchable_iff.mpr ⟨hsome, hpids⟩
  refine ⟨isUnsupported_query_iff hsearchable, fun hclear => ?_⟩
  rw [query_of_clear hsearchable hclear]
  simp only [ofStream, hfault]

end SyscallPolicy.AuditLog
