import Mathlib.Data.List.Nodup
import SyscallPolicy.AuditLog.History
import SyscallPolicy.FirstOccurrences
import SyscallPolicy.Proofs.AuditLog.Lines
import SyscallPolicy.Proofs.Syscall.Table

/-!
# Runs of queries on a log

A query goes on where the one before stopped, and it remembers nothing of
what the others saw.  `queries_in_closed_form` says what a run of queries
answers without going through it query by query: `IsHistory`.

* `scan_of_obstacle` and `scan_of_clear` say what one scan finds in lines
  that are cut at their first obstacle;
* `query_eq` is one query, `answerAt_behind` and `behind_behind` relate what
  comes behind it to the history of the whole log;
* `askAgain_eq` is a run, by induction on the number of queries.
-/

namespace SyscallPolicy.AuditLog

variable {pids : List Int} {line : Line} {lines before after : List Line} {id : Nat}

/-! ## Obstacles -/

/-- The unassigned number that a line records. -/
def obstacle? (pids : List Int) (line : Line) : Option Nat :=
  (lineId? pids line).filter fun id => (Syscall.nameOf? id).isNone

theorem obstacle?_eq_some_iff :
    obstacle? pids line = some id ↔ lineId? pids line = some id ∧ Syscall.nameOf? id = none := by
  simp [obstacle?, Option.filter_eq_some_iff]

/-- A line without an obstacle records nothing, or a call that has a name. -/
theorem obstacle?_eq_none_iff :
    obstacle? pids line = none ↔
      ∀ id, lineId? pids line = some id → ∃ name, Syscall.nameOf? id = some name := by
  simp [obstacle?, Option.filter_eq_none_iff, Option.ne_none_iff_exists']

/-- The obstacles of a log, in terms of those of its lines. -/
theorem obstacles_eq (log : AuditLog) : log.obstacles =
    log.unread.zipIdx.filterMap fun entry =>
      (obstacle? log.pids entry.1).map (Prod.mk entry.2) := by
  unfold obstacles
  congr 1
  funext (line, place)
  simp only [obstacle?]
  cases lineId? log.pids line with
  | none => rfl
  | some id => cases h : Syscall.nameOf? id <;> simp [Option.filter_some, h]

theorem mem_obstacles_iff {log : AuditLog} {place : Nat} : (place, id) ∈ log.obstacles ↔
    ∃ line, log.unread[place]? = some line ∧ lineId? log.pids line = some id ∧
      Syscall.nameOf? id = none := by
  rw [obstacles_eq, List.mem_filterMap]
  simp only [← obstacle?_eq_some_iff]
  constructor
  · rintro ⟨⟨line, _⟩, hline, hid⟩
    obtain ⟨other, hother, heq⟩ := Option.map_eq_some_iff.mp hid
    obtain ⟨rfl, rfl⟩ := Prod.mk.inj heq
    exact ⟨line, List.mem_zipIdx_iff_getElem?.mp hline, hother⟩
  · rintro ⟨line, hline, hid⟩
    exact ⟨(line, place), List.mem_zipIdx_iff_getElem?.mpr hline, by rw [hid, Option.map_some]⟩

/-- Obstacles are met in the order of their lines. -/
theorem pairwise_obstacles (log : AuditLog) : log.obstacles.Pairwise fun o p => o.1 < p.1 := by
  have hplaces : log.unread.zipIdx.Pairwise fun l m => l.2 < m.2 := by
    rw [← List.pairwise_map (f := Prod.snd) (R := (· < ·)), List.zipIdx_map_snd]
    exact List.pairwise_lt_range'
  rw [obstacles_eq]
  refine hplaces.filterMap _ fun l m hlt o ho p hp => ?_
  obtain ⟨_, -, rfl⟩ := Option.map_eq_some_iff.mp ho
  obtain ⟨_, -, rfl⟩ := Option.map_eq_some_iff.mp hp
  exact hlt

/-! ## One scan -/

theorem scan_of_obstacle {seen : List Nat} (hseen : ∀ other ∈ seen, Syscall.nameOf? other ≠ none)
    (hbefore : ∀ line ∈ before, obstacle? pids line = none)
    (hline : obstacle? pids line = some id) :
    scan pids seen (before ++ line :: after) = (.error id, after) := by
  induction before generalizing seen with
  | nil =>
    obtain ⟨hid, hname⟩ := obstacle?_eq_some_iff.mp hline
    have hnew : seen.contains id = false := by
      rw [Bool.eq_false_iff]
      exact fun h => hseen id (List.contains_iff_mem.mp h) hname
    simp only [List.nil_append, scan, hid, hnew, hname, Bool.false_eq_true, if_false]
  | cons first before ih =>
    obtain ⟨hfirst, hbefore⟩ := List.forall_mem_cons.mp hbefore
    rw [List.cons_append, scan]
    cases hrecord : lineId? pids first with
    | none => exact ih hseen hbefore
    | some other =>
      obtain ⟨name, hname⟩ := obstacle?_eq_none_iff.mp hfirst other hrecord
      have hseen' : ∀ known ∈ other :: seen, Syscall.nameOf? known ≠ none :=
        List.forall_mem_cons.mpr ⟨by simp [hname], hseen⟩
      -- Seen or new, a call with a name does not end the scan.
      simp only [hname]
      rw [ih hseen hbefore, ih hseen' hbefore, ite_self]

/-- The names of the calls that lines record, each once, of those that were
not seen before. -/
def namesIn (pids : List Int) (seen : List Nat) (lines : List Line) : List String :=
  ((lines.filterMap (lineId? pids)).filter fun id => !seen.contains id).eraseDups.filterMap
    Syscall.nameOf?

theorem scan_of_clear {seen : List Nat} (hlines : ∀ line ∈ lines, obstacle? pids line = none) :
    scan pids seen lines = (.ok (namesIn pids seen lines), []) := by
  induction lines generalizing seen with
  | nil => rfl
  | cons first lines ih =>
    obtain ⟨hfirst, hlines⟩ := List.forall_mem_cons.mp hlines
    rw [scan]
    cases hrecord : lineId? pids first with
    | none =>
      simp only [namesIn, List.filterMap_cons_none hrecord]
      exact ih hlines
    | some id =>
      obtain ⟨name, hname⟩ := obstacle?_eq_none_iff.mp hfirst id hrecord
      simp only [namesIn, List.filterMap_cons_some hrecord]
      cases hseen : seen.contains id with
      | true =>
        rw [List.filter_cons_of_neg (by simpa using hseen)]
        exact ih hlines
      | false =>
        rw [eraseDups_unseen_cons hseen, List.filterMap_cons_some hname]
        simp [hname, ih hlines, namesIn]

/-! ## One query and the history behind it -/

/-- Lines have no obstacle, or they are cut at the first. -/
theorem clear_or_exists_obstacle (pids : List Int) (lines : List Line) :
    (∀ line ∈ lines, obstacle? pids line = none) ∨
      ∃ before line after id, lines = before ++ line :: after ∧
        (∀ line ∈ before, obstacle? pids line = none) ∧ obstacle? pids line = some id := by
  cases hfirst : lines.findSome? (obstacle? pids) with
  | none => exact .inl (List.findSome?_eq_none_iff.mp hfirst)
  | some id =>
    obtain ⟨before, line, after, hlines, hline, hbefore⟩ := List.findSome?_eq_some_iff.mp hfirst
    exact .inr ⟨before, line, after, id, hlines, hbefore, hline⟩

/-- The log behind so many queries. -/
def behind (log : AuditLog) (n : Nat) : AuditLog :=
  { log with unread := log.unreadAfter n }

theorem behind_zero (log : AuditLog) : log.behind 0 = log :=
  rfl

theorem remainingCalls_eq (log : AuditLog) :
    log.remainingCalls = namesIn log.pids [] (log.unread.drop log.openEnd) := by
  simp [remainingCalls, namesIn]

section Clear

variable {log : AuditLog} (hclear : ∀ line ∈ log.unread, obstacle? log.pids line = none)
include hclear

theorem obstacles_of_clear : log.obstacles = [] := by
  rw [obstacles_eq, List.filterMap_eq_nil_iff]
  rintro ⟨line, place⟩ hmem
  rw [Option.map_eq_none_iff]
  exact hclear line (List.fst_mem_of_mem_zipIdx hmem)

theorem remainingCalls_of_clear : log.remainingCalls = namesIn log.pids [] log.unread := by
  rw [remainingCalls_eq, openEnd, obstacles_of_clear hclear, List.getLast?_nil, List.drop_zero]

theorem answerAt_of_clear (k : Nat) : log.answerAt k =
    match log.fault with
    | some reason => .error (.io reason)
    | none => .ok (if k = 0 then discovery (namesIn log.pids [] log.unread) else none) := by
  rw [answerAt, obstacles_of_clear hclear, remainingCalls_of_clear hclear, List.getElem?_nil]
  cases log.fault with
  | none => rfl
  | some reason => rfl

theorem behind_succ_of_clear (n : Nat) : log.behind (n + 1) = { log with unread := [] } := by
  rw [behind, unreadAfter, obstacles_of_clear hclear, List.getElem?_nil]

end Clear

/-- Places behind a line are counted from there. -/
theorem drop_behind_line (n : Nat) :
    (before ++ line :: after).drop (before.length + 1 + n) = after.drop n := by
  rw [← List.drop_drop, ← List.drop_drop, List.drop_left, List.drop_one, List.tail_cons]

section Obstacle

variable {fault : Option String} (hbefore : ∀ line ∈ before, obstacle? pids line = none)
  (hline : obstacle? pids line = some id)
include hbefore hline

theorem obstacles_of_obstacle :
    (⟨before ++ line :: after, fault, pids⟩ : AuditLog).obstacles =
      (before.length, id) :: (⟨after, fault, pids⟩ : AuditLog).obstacles.map
        fun o => (before.length + 1 + o.1, o.2) := by
  have hnone : (before.zipIdx.filterMap fun entry =>
      (obstacle? pids entry.1).map (Prod.mk entry.2)) = [] :=
    obstacles_eq ⟨before, fault, pids⟩ ▸ obstacles_of_clear hbefore
  have hsome : (obstacle? pids line).map (Prod.mk before.length) = some (before.length, id) := by
    rw [hline, Option.map_some]
  rw [obstacles_eq, obstacles_eq]
  simp only [List.zipIdx_append, List.zipIdx_cons, List.filterMap_append, hnone, List.nil_append,
    Nat.zero_add, List.filterMap_cons, hsome]
  -- The log behind the obstacle counts its lines from zero, hence the shift.
  rw [List.zipIdx_eq_map_add, List.filterMap_map, List.map_filterMap]
  simp only [Function.comp_def, Option.map_map]

theorem openEnd_of_obstacle :
    (⟨before ++ line :: after, fault, pids⟩ : AuditLog).openEnd =
      before.length + 1 + (⟨after, fault, pids⟩ : AuditLog).openEnd := by
  rw [openEnd, openEnd, obstacles_of_obstacle hbefore hline, List.getLast?_cons, List.getLast?_map]
  cases (⟨after, fault, pids⟩ : AuditLog).obstacles.getLast? with
  | none => rfl
  | some last => rfl

theorem remainingCalls_of_obstacle :
    (⟨before ++ line :: after, fault, pids⟩ : AuditLog).remainingCalls =
      (⟨after, fault, pids⟩ : AuditLog).remainingCalls := by
  rw [remainingCalls_eq, remainingCalls_eq, openEnd_of_obstacle hbefore hline, drop_behind_line]

theorem answerAt_succ_of_obstacle (k : Nat) :
    (⟨before ++ line :: after, fault, pids⟩ : AuditLog).answerAt (k + 1) =
      (⟨after, fault, pids⟩ : AuditLog).answerAt k := by
  simp only [answerAt, obstacles_of_obstacle hbefore hline,
    remainingCalls_of_obstacle hbefore hline, List.getElem?_cons_succ, List.getElem?_map,
    List.length_cons, List.length_map]
  cases (⟨after, fault, pids⟩ : AuditLog).obstacles[k]? with
  | none => simp
  | some obstacle => simp

theorem behind_succ_of_obstacle (n : Nat) :
    (⟨before ++ line :: after, fault, pids⟩ : AuditLog).behind (n + 1) =
      (⟨after, fault, pids⟩ : AuditLog).behind n := by
  cases n with
  | zero =>
    simp only [behind, unreadAfter, obstacles_of_obstacle hbefore hline, List.getElem?_cons_zero]
    rw [← Nat.add_zero (before.length + 1), drop_behind_line, List.drop_zero]
  | succ n =>
    simp only [behind, unreadAfter, obstacles_of_obstacle hbefore hline, List.getElem?_cons_succ,
      List.getElem?_map]
    cases (⟨after, fault, pids⟩ : AuditLog).obstacles[n]? with
    | none => rfl
    | some obstacle =>
      rw [Option.map_some]
      simp only [Nat.add_assoc _ obstacle.1, drop_behind_line]

end Obstacle

/-- A query answers as the history says, and leaves what it says. -/
theorem query_eq {log : AuditLog} (hpids : isSearchable log.pids = true) :
    log.query = (log.answerAt 0, log.behind 1) := by
  obtain ⟨unread, fault, pids⟩ := log
  rcases clear_or_exists_obstacle pids unread with
    hclear | ⟨before, line, after, id, rfl, hbefore, hline⟩
  · rw [answerAt_of_clear hclear, behind_succ_of_clear hclear, query, if_pos hpids,
      scan_of_clear hclear]
    cases fault with
    | none => rfl
    | some reason => rfl
  · rw [behind_succ_of_obstacle hbefore hline, behind_zero, query, if_pos hpids,
      scan_of_obstacle (by simp) hbefore hline, answerAt, obstacles_of_obstacle hbefore hline]
    rfl

/-- What a log answers behind its first query is the rest of its answers. -/
theorem answerAt_behind (log : AuditLog) (k : Nat) :
    (log.behind 1).answerAt k = log.answerAt (k + 1) := by
  obtain ⟨unread, fault, pids⟩ := log
  rcases clear_or_exists_obstacle pids unread with
    hclear | ⟨before, line, after, id, rfl, hbefore, hline⟩
  · rw [behind_succ_of_clear hclear, answerAt_of_clear (by simp), answerAt_of_clear hclear]
    cases fault with
    | none => simp [namesIn, discovery]
    | some reason => rfl
  · rw [behind_succ_of_obstacle hbefore hline, behind_zero, answerAt_succ_of_obstacle hbefore hline]

/-- What is left behind so many queries more. -/
theorem behind_behind (log : AuditLog) (n : Nat) :
    (log.behind 1).behind n = log.behind (n + 1) := by
  obtain ⟨unread, fault, pids⟩ := log
  rcases clear_or_exists_obstacle pids unread with
    hclear | ⟨before, line, after, id, rfl, hbefore, hline⟩
  · rw [behind_succ_of_clear hclear, behind_succ_of_clear hclear]
    cases n with
    | zero => rfl
    | succ n => rw [behind_succ_of_clear (by simp)]
  · rw [behind_succ_of_obstacle hbefore hline, behind_succ_of_obstacle hbefore hline, behind_zero]

/-! ## A run of queries -/

/-- A run of queries gives the answers of the history and ends where it
says. -/
theorem askAgain_eq {log : AuditLog} (hpids : isSearchable log.pids = true) (n : Nat) :
    log.askAgain n = ((List.range n).map log.answerAt, log.behind n) := by
  -- On the queries still to be asked, for any log: the first leaves another one.
  induction n generalizing log with
  | zero => rfl
  | succ n ih =>
    have hrest : isSearchable (log.behind 1).pids = true := hpids
    have hanswers : (log.behind 1).answerAt = log.answerAt ∘ Nat.succ := funext log.answerAt_behind
    simp only [askAgain, query_eq hpids, ih hrest, behind_behind, hanswers,
      List.range_succ_eq_map, List.map_cons, List.map_map]

theorem getElem?_answers {log : AuditLog} (hpids : isSearchable log.pids = true) {n k : Nat}
    (hk : k < n) : (log.askAgain n).1[k]? = some (log.answerAt k) := by
  rw [askAgain_eq hpids, List.getElem?_map, List.getElem?_range hk, Option.map_some]

/-! ## The calls behind all obstacles -/

theorem mem_namesIn_iff {name : String} : name ∈ namesIn pids [] lines ↔
    ∃ line ∈ lines, ∃ id, lineId? pids line = some id ∧ Syscall.nameOf? id = some name := by
  simp only [namesIn, List.mem_filterMap, List.mem_eraseDups, List.mem_filter, List.contains_nil,
    Bool.not_false, and_true]
  constructor
  · rintro ⟨id, ⟨line, hline, hid⟩, hname⟩
    exact ⟨line, hline, id, hid, hname⟩
  · rintro ⟨line, hline, id, hid, hname⟩
    exact ⟨id, ⟨line, hline, hid⟩, hname⟩

theorem nodup_namesIn (pids : List Int) (seen : List Nat) (lines : List Line) :
    (namesIn pids seen lines).Nodup :=
  (nodup_eraseDups _).filterMap fun _ _ _ hi hj => Syscall.nameOf?_injective hi hj

/-- The open end of a log begins behind its last obstacle, so behind all. -/
theorem openEnd_le_iff {log : AuditLog} {place : Nat} :
    log.openEnd ≤ place ↔ ∀ o ∈ log.obstacles, o.1 < place := by
  have hordered := pairwise_obstacles log
  unfold openEnd
  rcases List.eq_nil_or_concat' log.obstacles with hnil | ⟨others, last, hlast⟩
  · simp [hnil]
  · rw [hlast, List.pairwise_append] at hordered
    have hothers (o) (ho : o ∈ others) : o.1 < last.1 :=
      hordered.2.2 o ho last List.mem_cons_self
    simp only [hlast, List.getLast?_concat, List.forall_mem_append, List.forall_mem_singleton,
      Nat.succ_le_iff]
    exact ⟨fun hlt => ⟨fun o ho => Nat.lt_trans (hothers o ho) hlt, hlt⟩, fun h => h.2⟩

theorem discovery_eq (names : List String) :
    discovery names = if names ≠ [] then some (.allow names) else none := by
  cases names <;> rfl

theorem eq_allow_of_answerAt {log : AuditLog} {k : Nat} {rule : Rule}
    (hanswer : log.answerAt k = .ok (some rule)) :
    rule = .allow log.remainingCalls ∧ log.fault = none := by
  unfold answerAt at hanswer
  split at hanswer
  case h_1 => cases hanswer
  case h_2 => cases hanswer
  case h_3 hfault =>
    have hrule := Except.ok.inj hanswer
    rw [discovery_eq, ← ite_and, Option.ite_none_right_eq_some] at hrule
    exact ⟨(Option.some.inj hrule.2).symm, hfault⟩

/-! ## The closed form -/

/-- What a run of queries on a log tells of these lines.  An obstacle is a
line with an unassigned number; it is given by its place and that number. -/
structure IsHistory (log : AuditLog) (lines : List Line) (obstacles : List (Nat × Nat))
    (names : List String) : Prop where
  /-- The obstacles are the lines with an unassigned number … -/
  mem_obstacles : ∀ place id, (place, id) ∈ obstacles ↔ ∃ line, lines[place]? = some line ∧
    lineId? log.pids line = some id ∧ Syscall.nameOf? id = none
  /-- … in the order of the lines. -/
  ordered : obstacles.Pairwise fun o p => o.1 < p.1
  /-- The names are those of the numbers behind the last obstacle, each number
  taken where it comes first … -/
  names_eq : names = ((lines.drop (obstacles.getLast?.elim 0 fun o => o.1 + 1)).filterMap
    (lineId? log.pids)).eraseDups.filterMap Syscall.nameOf?
  /-- … so no name comes twice, … -/
  nodup_names : names.Nodup
  /-- … and those before it do not come unless they are recorded again. -/
  mem_names : ∀ name, name ∈ names ↔ ∃ place line id, (∀ o ∈ obstacles, o.1 < place) ∧
    lines[place]? = some line ∧ lineId? log.pids line = some id ∧
      Syscall.nameOf? id = some name
  /-- Every query has its answer. -/
  length_answers : ∀ n, (log.askAgain n).1.length = n
  /-- One query after the other fails at one obstacle after the other … -/
  answer_obstacle : ∀ n k place id, k < n → obstacles[k]? = some (place, id) →
    (log.askAgain n).1[k]? = some (.error (.unsupportedSyscall id))
  /-- … and has read the lines up to there. -/
  unread_obstacle : ∀ k place id, obstacles[k]? = some (place, id) →
    (log.askAgain (k + 1)).2.unread = lines.drop (place + 1)
  /-- The next query reports the names and those after it nothing; if the reader
  fails, all of them fail. -/
  answer_behind : ∀ n k, k < n → obstacles.length ≤ k → (log.askAgain n).1[k]? =
    some (match log.fault with
      | some reason => .error (.io reason)
      | none => .ok (if k = obstacles.length ∧ names ≠ [] then some (.allow names) else none))
  /-- They have read all lines. -/
  unread_behind : ∀ k, obstacles.length ≤ k → (log.askAgain (k + 1)).2.unread = []
  /-- So no rule but this one is ever reported, and none if the reader fails. -/
  reported : ∀ n rule, .ok (some rule) ∈ (log.askAgain n).1 →
    rule = .allow names ∧ log.fault = none

theorem isHistory {log : AuditLog} (hpids : isSearchable log.pids = true) :
    IsHistory log log.unread log.obstacles log.remainingCalls where
  mem_obstacles place id := mem_obstacles_iff
  ordered := pairwise_obstacles log
  names_eq := by
    rw [remainingCalls, openEnd]
    cases log.obstacles.getLast? with
    | none => rfl
    | some last => rfl
  nodup_names := by
    rw [remainingCalls_eq]
    exact nodup_namesIn _ _ _
  mem_names name := by
    rw [remainingCalls_eq, mem_namesIn_iff]
    simp only [← openEnd_le_iff]
    constructor
    · rintro ⟨line, hline, id, hid, hname⟩
      obtain ⟨place, hplace⟩ := List.mem_iff_getElem?.mp hline
      rw [List.getElem?_drop] at hplace
      exact ⟨log.openEnd + place, line, id, Nat.le_add_right _ _, hplace, hid, hname⟩
    · rintro ⟨place, line, id, hle, hplace, hid, hname⟩
      refine ⟨line, List.mem_iff_getElem?.mpr ⟨place - log.openEnd, ?_⟩, id, hid, hname⟩
      rw [List.getElem?_drop, Nat.add_sub_of_le hle, hplace]
  length_answers n := by rw [askAgain_eq hpids, List.length_map, List.length_range]
  answer_obstacle n k place id hk hobstacle := by
    rw [getElem?_answers hpids hk, answerAt, hobstacle]
  unread_obstacle k place id hobstacle := by
    rw [askAgain_eq hpids, behind, unreadAfter, hobstacle]
  answer_behind n k hk hlength := by
    rw [getElem?_answers hpids hk, answerAt, List.getElem?_eq_none hlength]
    cases log.fault with
    | some reason => rfl
    | none => simp only [discovery_eq, ite_and]
  unread_behind k hlength := by
    rw [askAgain_eq hpids, behind, unreadAfter, List.getElem?_eq_none hlength]
  reported n rule hreported := by
    rw [askAgain_eq hpids, List.mem_map] at hreported
    obtain ⟨k, -, hanswer⟩ := hreported
    exact eq_allow_of_answerAt hanswer

end SyscallPolicy.AuditLog
