import Mathlib.Data.List.Basic
import Mathlib.Data.Nat.Find
import SyscallPolicy.Workload.Command

/-!
# The life of a child

The waiting for a child ends at the first look that is decisive: the child has
ended, or it cannot be looked at, or it still runs and its time is over.  What
is seen there settles everything (`await_append`): an end that is seen counts,
whatever the clock says, and on every other way out the child is killed before
it is reaped.

* `life_of_child` says this of a child that gives any answers at any readings
  of the clock.
* `Command.run_cases` and `Command.outcome_run_eq_some_iff` open a run: it
  could not be prepared, or its child was watched up to a decisive look.
-/

namespace SyscallPolicy.Workload

variable {timeout : Duration} {deadline : Instant} {poll : Poll} {polls before rest : List Poll}

/-! ## Decisive looks -/

namespace Poll

/-- Whether the waiting ends at a look. -/
def isDecisive (deadline : Instant) : Poll → Bool
  | running now => deadline.reached now
  | ended _ => true
  | failed _ => true

/-- What is done to a child that is looked at so often before a decisive look. -/
def events (earlier : ℕ) : Poll → List ChildEvent
  | ended _ => List.replicate earlier .pause ++ [.reap]
  | running _ => List.replicate earlier .pause ++ [.kill, .reap]
  | failed _ => List.replicate earlier .pause ++ [.kill, .reap]

/-- What a decisive look says about the child. -/
def result (timeout : Duration) : Poll → Except RunFailure ExitStatus
  | running _ => .error (.timedOut timeout)
  | ended status => .ok status
  | failed reason => .error (.harness ("cannot wait for workload: " ++ reason))

/-- What it says about the workload. -/
def outcome (timeout : Duration) (poll : Poll) : Outcome :=
  (poll.result timeout).bind ExitStatus.outcome

theorem pause_cons_events (n : ℕ) (poll : Poll) :
    .pause :: poll.events n = poll.events (n + 1) := by
  cases poll <;> rfl

theorem getLast?_events (n : ℕ) (poll : Poll) : (poll.events n).getLast? = some .reap := by
  cases poll <;> simp [events]

theorem count_reap_events (n : ℕ) (poll : Poll) : (poll.events n).count .reap = 1 := by
  cases poll <;> simp [events, List.count_replicate]

theorem count_pause_events (n : ℕ) (poll : Poll) : (poll.events n).count .pause = n := by
  cases poll <;> simp [events]

theorem kill_mem_events_iff {n : ℕ} :
    .kill ∈ poll.events n ↔ ∀ status, poll ≠ .ended status := by
  cases poll <;> simp [events]

/-- What a decisive look may say about the workload, case by case. -/
inductive Says (timeout : Duration) : Poll → Outcome → Prop
  | succeeded : Says timeout (.ended (.code 0)) (.ok ())
  | exited {code : Int} (hcode : code ≠ 0) :
      Says timeout (.ended (.code code)) (.error (.exited code))
  | signalled : Says timeout (.ended .signal) (.error .signalled)
  | timedOut (now : Instant) : Says timeout (.running now) (.error (.timedOut timeout))
  | unwatched (reason : String) :
      Says timeout (.failed reason) (.error (.harness ("cannot wait for workload: " ++ reason)))

theorem says_iff {o : Outcome} : poll.Says timeout o ↔ poll.outcome timeout = o := by
  constructor
  · intro hsays
    cases hsays with
    | exited hcode => exact if_neg hcode
    | succeeded | signalled | timedOut | unwatched => rfl
  · rintro rfl
    rcases poll with now | (code | _) | reason
    · exact .timedOut now
    · by_cases hcode : code = 0
      · subst hcode
        exact .succeeded
      · have houtcome : (Poll.ended (.code code)).outcome timeout = .error (.exited code) :=
          if_neg hcode
        rw [houtcome]
        exact .exited hcode
    · exact .signalled
    · exact .unwatched reason

end Poll

theorem await_cons_of_isDecisive (hpoll : poll.isDecisive deadline = true) :
    await timeout deadline (poll :: rest) = some ⟨poll.events 0, poll.result timeout⟩ := by
  cases poll with
  | running now => exact if_pos hpoll
  | ended status => rfl
  | failed reason => rfl

theorem await_cons_of_not_isDecisive (hpoll : poll.isDecisive deadline = false) :
    await timeout deadline (poll :: rest) =
      (await timeout deadline rest).map fun a => { a with events := .pause :: a.events } := by
  cases poll with
  | running now => exact if_neg (by simpa [Poll.isDecisive] using hpoll)
  | ended status => cases hpoll
  | failed reason => cases hpoll

/-- The waiting goes on up to the first decisive look, and ends there. -/
theorem await_append (hbefore : ∀ poll ∈ before, poll.isDecisive deadline = false)
    (hpoll : poll.isDecisive deadline = true) :
    await timeout deadline (before ++ poll :: rest) =
      some ⟨poll.events before.length, poll.result timeout⟩ := by
  induction before with
  | nil => exact await_cons_of_isDecisive hpoll
  | cons first before ih =>
    obtain ⟨hfirst, hbefore⟩ := List.forall_mem_cons.mp hbefore
    rw [List.cons_append, await_cons_of_not_isDecisive hfirst, ih hbefore, List.length_cons,
      ← Poll.pause_cons_events]
    rfl

theorem await_of_not_isDecisive (hpolls : ∀ poll ∈ polls, poll.isDecisive deadline = false) :
    await timeout deadline polls = none := by
  induction polls with
  | nil => rfl
  | cons first rest ih =>
    obtain ⟨hfirst, hrest⟩ := List.forall_mem_cons.mp hpolls
    rw [await_cons_of_not_isDecisive hfirst, ih hrest]
    rfl

/-! ## Answers of a child -/

/-- What a child answers when it is asked whether it has ended. -/
inductive Answer where
  | running
  | ended (status : ExitStatus)
  | failed (reason : String)
  deriving DecidableEq, Repr

/-- The look that shows this answer; the clock is read if the child still runs. -/
def Answer.look (now : Instant) : Answer → Poll
  | running => .running now
  | ended status => .ended status
  | failed reason => .failed reason

section Answers

variable (deadline : Instant) (answers : ℕ → Answer) (clock : ℕ → Instant)

/-- The first looks at a child that answers like this at such readings of the
clock. -/
def looks (n : ℕ) : List Poll :=
  (List.range n).map fun i => (answers i).look (clock i)

/-- Whether a look is the first that is decisive. -/
def EndsAt (n : ℕ) : Prop :=
  ((answers n).look (clock n)).isDecisive deadline = true ∧
    ∀ m < n, ((answers m).look (clock m)).isDecisive deadline = false

/-- What becomes of a child whose waiting ends at a look. -/
structure IsLifeUntil (timeout : Duration) (n : ℕ) (a : Awaited) : Prop where
  /-- The child is reaped, … -/
  reaped : a.events.getLast? = some .reap
  /-- … and that once. -/
  reaped_once : a.events.count .reap = 1
  /-- It is killed unless an end of it was seen. -/
  killed_iff : .kill ∈ a.events ↔ ∀ m ≤ n, ∀ status, answers m ≠ .ended status
  /-- There is a pause behind each look but the last. -/
  paused : a.events.count .pause = n
  /-- A status is one that was seen, whatever the clock says, … -/
  status_iff : ∀ status, a.result = .ok status ↔ answers n = .ended status
  /-- … the time is over for a child that was seen to run, … -/
  timedOut_iff : ∀ after, a.result = .error (.timedOut after) ↔
    after = timeout ∧ answers n = .running ∧ deadline.reached (clock n) = true
  /-- … and anything else is an error of looking at it. -/
  harness_iff : ∀ text, a.result = .error (.harness text) ↔
    ∃ reason, answers n = .failed reason ∧ text = "cannot wait for workload: " ++ reason

theorem length_looks (n : ℕ) : (looks answers clock n).length = n := by
  rw [looks, List.length_map, List.length_range]

theorem exists_looks_eq_append {n m : ℕ} (hlt : n < m) :
    ∃ rest, looks answers clock m =
      looks answers clock n ++ (answers n).look (clock n) :: rest := by
  obtain ⟨k, rfl⟩ := Nat.exists_eq_add_of_lt hlt
  refine ⟨(List.range k).map fun i => (answers (n + (i + 1))).look (clock (n + (i + 1))), ?_⟩
  rw [looks, Nat.add_assoc, List.range_add, List.range_succ_eq_map, List.map_append]
  simp [looks]

variable {deadline answers clock}

theorem isLifeUntil {n : ℕ} (hends : EndsAt deadline answers clock n) :
    IsLifeUntil deadline answers clock timeout n
      ⟨((answers n).look (clock n)).events n, ((answers n).look (clock n)).result timeout⟩ := by
  -- A child whose end was seen earlier would have been waited for no longer.
  have hrunning : ∀ m < n, ∀ status, answers m ≠ .ended status := by
    intro m hm status hended
    have hlook := hends.2 m hm
    rw [hended] at hlook
    cases hlook
  refine ⟨Poll.getLast?_events _ _, Poll.count_reap_events _ _, ?killed,
    Poll.count_pause_events _ _, ?status, ?timedOut, ?harness⟩
  case killed =>
    rw [Poll.kill_mem_events_iff]
    constructor
    · intro hlook m hm status hended
      rcases Nat.lt_or_eq_of_le hm with hlt | rfl
      · exact hrunning m hlt status hended
      · exact hlook status (by rw [hended]; rfl)
    · intro hnone status hlook
      cases hanswer : answers n with
      | ended other => exact hnone n (Nat.le_refl n) other hanswer
      | running | failed _ =>
        rw [hanswer] at hlook
        cases hlook
  case status =>
    intro status
    cases answers n <;> simp [Answer.look, Poll.result]
  case timedOut =>
    intro after
    have hdecisive := hends.1
    cases hanswer : answers n with
    | running =>
      rw [hanswer] at hdecisive
      have hreached : deadline.reached (clock n) = true := hdecisive
      simp [Answer.look, Poll.result, hreached, eq_comm]
    | ended status => simp [Answer.look, Poll.result]
    | failed reason => simp [Answer.look, Poll.result]
  case harness =>
    intro text
    cases answers n with
    | running => simp [Answer.look, Poll.result]
    | ended status => simp [Answer.look, Poll.result]
    | failed reason => simp [Answer.look, Poll.result, eq_comm]

theorem await_looks {n m : ℕ} (hends : EndsAt deadline answers clock n) :
    await timeout deadline (looks answers clock m) =
      if n < m then some ⟨((answers n).look (clock n)).events n,
        ((answers n).look (clock n)).result timeout⟩ else none := by
  have hbefore : ∀ k ≤ n, ∀ poll ∈ looks answers clock k, poll.isDecisive deadline = false := by
    intro k hk poll hpoll
    obtain ⟨i, hi, rfl⟩ := List.mem_map.mp hpoll
    exact hends.2 i (Nat.lt_of_lt_of_le (List.mem_range.mp hi) hk)
  split
  case isTrue hlt =>
    obtain ⟨rest, hlooks⟩ := exists_looks_eq_append answers clock hlt
    rw [hlooks, await_append (hbefore n (Nat.le_refl n)) hends.1, length_looks]
  case isFalse hge => exact await_of_not_isDecisive (hbefore m (Nat.le_of_not_lt hge))

/-- One of the looks up to a decisive one is the first. -/
theorem exists_endsAt {m : ℕ}
    (hdecisive : ((answers m).look (clock m)).isDecisive deadline = true) :
    ∃ n ≤ m, EndsAt deadline answers clock n := by
  have hsome : ∃ n, ((answers n).look (clock n)).isDecisive deadline = true := ⟨m, hdecisive⟩
  refine ⟨Nat.find hsome, Nat.find_min' hsome hdecisive, Nat.find_spec hsome, fun k hk => ?_⟩
  simpa using Nat.find_min hsome hk

end Answers

/-! ## Runs -/

namespace Command

/-- What stands for the placeholder in a run, or why there is nothing. -/
def substitute (c : Command) (around : Surroundings) : Option Profile → Except StoreFailure String
  | none => .ok c.unconstrained
  | some p => around.store p.compactText

/-- Whether the child of a run is started, its deadline can be shown, and this
is the first decisive look at it. -/
def EndsWith (c : Command) (around : Surroundings) (profile : Option Profile) (poll : Poll) :
    Prop :=
  ∃ value polls deadline, c.substitute around profile = .ok value ∧
    around.start c.program (c.argsWith value) = .ok polls ∧
    around.clock.add? c.timeout = some deadline ∧
    polls.find? (·.isDecisive deadline) = some poll

variable {c : Command} {around : Surroundings} {profile : Option Profile} {clock : Instant}

theorem watch_of_find? (hdeadline : clock.add? c.timeout = some deadline)
    (hfind : polls.find? (·.isDecisive deadline) = some poll) :
    ∃ n, c.watch clock polls = ⟨.spawn :: poll.events n, some (poll.outcome c.timeout)⟩ := by
  obtain ⟨hpoll, before, rest, rfl, hbefore⟩ := List.find?_eq_some_iff_append.mp hfind
  refine ⟨before.length, ?_⟩
  unfold watch
  rw [hdeadline]
  simp only
  rw [await_append (fun poll hmem => by simpa using hbefore poll hmem) hpoll]
  cases poll <;> rfl

theorem watch_of_find?_eq_none (hnone : ∀ deadline, clock.add? c.timeout = some deadline →
    polls.find? (·.isDecisive deadline) = none) : c.watch clock polls = ⟨[.spawn], none⟩ := by
  unfold watch
  cases hdeadline : clock.add? c.timeout with
  | none => rfl
  | some deadline =>
    have hpolls : ∀ poll ∈ polls, poll.isDecisive deadline = false := by
      simpa using List.find?_eq_none.mp (hnone deadline hdeadline)
    simp only
    rw [await_of_not_isDecisive hpolls]

theorem run_eq (c : Command) (around : Surroundings) (profile : Option Profile) :
    c.run around profile = match c.substitute around profile with
      | .error failure => ⟨[], some (.error (.harness failure.message))⟩
      | .ok value => c.runWith around value := by
  cases profile <;> rfl

theorem run_of_substitute_eq_error {failure : StoreFailure}
    (hvalue : c.substitute around profile = .error failure) :
    c.run around profile = ⟨[], some (.error (.harness failure.message))⟩ := by
  rw [run_eq, hvalue]

theorem run_of_start_eq_error {value reason : String}
    (hvalue : c.substitute around profile = .ok value)
    (hstart : around.start c.program (c.argsWith value) = .error reason) : c.run around profile =
      ⟨[], some (.error (.harness ("cannot launch '" ++ c.program ++ "': " ++ reason)))⟩ := by
  rw [run_eq, hvalue]
  simp only [runWith, hstart]

theorem run_of_start_eq_ok {value : String} (hvalue : c.substitute around profile = .ok value)
    (hstart : around.start c.program (c.argsWith value) = .ok polls) :
    c.run around profile = c.watch around.clock polls := by
  rw [run_eq, hvalue]
  simp only [runWith, hstart]

theorem EndsWith.run_eq (hends : c.EndsWith around profile poll) :
    ∃ n, c.run around profile = ⟨.spawn :: poll.events n, some (poll.outcome c.timeout)⟩ := by
  obtain ⟨value, polls, deadline, hvalue, hstart, hdeadline, hfind⟩ := hends
  rw [run_of_start_eq_ok hvalue hstart]
  exact watch_of_find? hdeadline hfind

theorem EndsWith.reaped (hends : c.EndsWith around profile poll) :
    (c.run around profile).events.getLast? = some .reap ∧
      (c.run around profile).events.count .reap = 1 := by
  obtain ⟨n, hrun⟩ := hends.run_eq
  rw [hrun]
  refine ⟨?_, ?_⟩
  · show (.spawn :: poll.events n).getLast? = some .reap
    rw [List.getLast?_cons, Poll.getLast?_events]
    rfl
  · rw [List.count_cons_of_ne (by decide), Poll.count_reap_events]

/-- A child whose end is not waited for is only started. -/
theorem run_of_not_endsWith {value : String} (hvalue : c.substitute around profile = .ok value)
    (hstart : around.start c.program (c.argsWith value) = .ok polls)
    (hnone : ∀ poll, ¬c.EndsWith around profile poll) :
    c.run around profile = ⟨[.spawn], none⟩ := by
  rw [run_of_start_eq_ok hvalue hstart]
  refine watch_of_find?_eq_none fun deadline hdeadline => ?_
  exact Option.eq_none_iff_forall_ne_some.mpr fun poll hfind =>
    hnone poll ⟨value, polls, deadline, hvalue, hstart, hdeadline, hfind⟩

/-- A run cannot be prepared, or its child comes to a decisive look, or to
none. -/
theorem run_cases (c : Command) (around : Surroundings) (profile : Option Profile) :
    (∃ failure, c.substitute around profile = .error failure) ∨
    (∃ value reason, c.substitute around profile = .ok value ∧
      around.start c.program (c.argsWith value) = .error reason) ∨
    (∃ poll, c.EndsWith around profile poll) ∨
    ∃ value polls, c.substitute around profile = .ok value ∧
      around.start c.program (c.argsWith value) = .ok polls ∧
      ∀ poll, ¬c.EndsWith around profile poll := by
  cases hvalue : c.substitute around profile with
  | error failure => exact .inl ⟨failure, rfl⟩
  | ok value =>
    cases hstart : around.start c.program (c.argsWith value) with
    | error reason => exact .inr (.inl ⟨value, reason, rfl, hstart⟩)
    | ok polls =>
      by_cases hends : ∃ poll, c.EndsWith around profile poll
      · exact .inr (.inr (.inl hends))
      · exact .inr (.inr (.inr ⟨value, polls, rfl, hstart, not_exists.mp hends⟩))

/-- The outcome of a run is that of its preparation, or of the decisive look. -/
theorem outcome_run_eq_some_iff {o : Outcome} : (c.run around profile).outcome = some o ↔
    (∃ failure, c.substitute around profile = .error failure ∧
      o = .error (.harness failure.message)) ∨
    (∃ value reason, c.substitute around profile = .ok value ∧
      around.start c.program (c.argsWith value) = .error reason ∧
      o = .error (.harness ("cannot launch '" ++ c.program ++ "': " ++ reason))) ∨
    ∃ poll, c.EndsWith around profile poll ∧ poll.Says c.timeout o := by
  constructor
  · intro houtcome
    rcases run_cases c around profile with ⟨failure, hvalue⟩ | ⟨value, reason, hvalue, hstart⟩ |
      ⟨poll, hends⟩ | ⟨value, polls, hvalue, hstart, hnone⟩
    · rw [run_of_substitute_eq_error hvalue] at houtcome
      exact .inl ⟨failure, hvalue, (Option.some.inj houtcome).symm⟩
    · rw [run_of_start_eq_error hvalue hstart] at houtcome
      exact .inr (.inl ⟨value, reason, hvalue, hstart, (Option.some.inj houtcome).symm⟩)
    · obtain ⟨n, hrun⟩ := hends.run_eq
      rw [hrun] at houtcome
      exact .inr (.inr ⟨poll, hends, Poll.says_iff.mpr (Option.some.inj houtcome)⟩)
    · rw [run_of_not_endsWith hvalue hstart hnone] at houtcome
      cases houtcome
  · rintro (⟨failure, hvalue, rfl⟩ | ⟨value, reason, hvalue, hstart, rfl⟩ | ⟨poll, hends, hsays⟩)
    · rw [run_of_substitute_eq_error hvalue]
    · rw [run_of_start_eq_error hvalue hstart]
    · obtain ⟨n, hrun⟩ := hends.run_eq
      rw [hrun, Poll.says_iff.mp hsays]

/-- Whatever is no fault of the harness was said by a look at the child. -/
theorem outcome_run_eq_iff_of_ne_harness {o : Outcome} (ho : ∀ text, o ≠ .error (.harness text)) :
    (c.run around profile).outcome = some o ↔
      ∃ poll, c.EndsWith around profile poll ∧ poll.Says c.timeout o := by
  rw [outcome_run_eq_some_iff]
  constructor
  · rintro (⟨failure, -, h⟩ | ⟨value, reason, -, -, h⟩ | hlook)
    · exact absurd h (ho _)
    · exact absurd h (ho _)
    · exact hlook
  · exact fun hlook => .inr (.inr hlook)

/-- What a run says, and what it leaves behind. -/
structure IsAccount (c : Command) (around : Surroundings) (profile : Option Profile) (run : Run) :
    Prop where
  /-- Success is the exit status zero … -/
  ok_iff : run.outcome = some (.ok ()) ↔ c.EndsWith around profile (.ended (.code 0))
  /-- … and any other exit status is a failure of the workload, … -/
  exited_iff : ∀ code, run.outcome = some (.error (.exited code)) ↔
    code ≠ 0 ∧ c.EndsWith around profile (.ended (.code code))
  /-- … as is an end without one. -/
  signalled_iff : run.outcome = some (.error .signalled) ↔
    c.EndsWith around profile (.ended .signal)
  /-- The time is over if the child is seen to run then. -/
  timedOut_iff : ∀ after, run.outcome = some (.error (.timedOut after)) ↔
    after = c.timeout ∧ ∃ now, c.EndsWith around profile (.running now)
  /-- Nothing but storing, starting and looking is a fault of the harness. -/
  harness_iff : ∀ text, run.outcome = some (.error (.harness text)) ↔
    (∃ failure, c.substitute around profile = .error failure ∧ text = failure.message) ∨
    (∃ value reason, c.substitute around profile = .ok value ∧
      around.start c.program (c.argsWith value) = .error reason ∧
      text = "cannot launch '" ++ c.program ++ "': " ++ reason) ∨
    ∃ reason, c.EndsWith around profile (.failed reason) ∧
      text = "cannot wait for workload: " ++ reason
  /-- A run that comes to an outcome leaves no child behind. -/
  reaped : .spawn ∈ run.events → run.outcome ≠ none →
    run.events.getLast? = some .reap ∧ run.events.count .reap = 1
  /-- No child is killed that was seen to have ended. -/
  killed : .kill ∈ run.events → ∀ status, ¬c.EndsWith around profile (.ended status)

theorem isAccount (c : Command) (around : Surroundings) (profile : Option Profile) :
    c.IsAccount around profile (c.run around profile) where
  ok_iff := by
    rw [outcome_run_eq_iff_of_ne_harness (by simp)]
    constructor
    · rintro ⟨poll, hends, hsays⟩
      cases hsays
      exact hends
    · exact fun hends => ⟨_, hends, .succeeded⟩
  exited_iff code := by
    rw [outcome_run_eq_iff_of_ne_harness (by simp)]
    constructor
    · rintro ⟨poll, hends, hsays⟩
      cases hsays with
      | exited hcode => exact ⟨hcode, hends⟩
    · rintro ⟨hcode, hends⟩
      exact ⟨_, hends, .exited hcode⟩
  signalled_iff := by
    rw [outcome_run_eq_iff_of_ne_harness (by simp)]
    constructor
    · rintro ⟨poll, hends, hsays⟩
      cases hsays
      exact hends
    · exact fun hends => ⟨_, hends, .signalled⟩
  timedOut_iff after := by
    rw [outcome_run_eq_iff_of_ne_harness (by simp)]
    constructor
    · rintro ⟨poll, hends, hsays⟩
      cases hsays with
      | timedOut now => exact ⟨rfl, now, hends⟩
    · rintro ⟨rfl, now, hends⟩
      exact ⟨_, hends, .timedOut now⟩
  harness_iff text := by
    rw [outcome_run_eq_some_iff]
    constructor
    · rintro (⟨failure, hvalue, h⟩ | ⟨value, reason, hvalue, hstart, h⟩ | ⟨poll, hends, hsays⟩)
      · cases h
        exact .inl ⟨failure, hvalue, rfl⟩
      · cases h
        exact .inr (.inl ⟨value, reason, hvalue, hstart, rfl⟩)
      · cases hsays with
        | unwatched reason => exact .inr (.inr ⟨reason, hends, rfl⟩)
    · rintro (⟨failure, hvalue, rfl⟩ | ⟨value, reason, hvalue, hstart, rfl⟩ | ⟨reason, hends, rfl⟩)
      · exact .inl ⟨failure, hvalue, rfl⟩
      · exact .inr (.inl ⟨value, reason, hvalue, hstart, rfl⟩)
      · exact .inr (.inr ⟨_, hends, .unwatched reason⟩)
  reaped hspawn hsome := by
    rcases run_cases c around profile with ⟨failure, hvalue⟩ | ⟨value, reason, hvalue, hstart⟩ |
      ⟨poll, hends⟩ | ⟨value, polls, hvalue, hstart, hnone⟩
    · rw [run_of_substitute_eq_error hvalue] at hspawn
      cases hspawn
    · rw [run_of_start_eq_error hvalue hstart] at hspawn
      cases hspawn
    · exact hends.reaped
    · rw [run_of_not_endsWith hvalue hstart hnone] at hsome
      exact absurd rfl hsome
  killed hkill status hends := by
    obtain ⟨n, hrun⟩ := hends.run_eq
    rw [hrun, List.mem_cons, or_iff_right (by decide), Poll.kill_mem_events_iff] at hkill
    exact hkill status rfl

end Command

/-- A child may answer in any way, at any readings of the clock.  The waiting
for it ends at the first look that shows an end, an error or a running child
at its deadline, and the child is reaped then; it is killed only if its end was
not seen, and its time is over only if it was seen to run.  So a run says of a
workload what was seen of it, and finds fault with the harness only if the
profile cannot be stored or the child not started or not looked at. -/
theorem life_of_child :
    (∀ (timeout : Duration) (deadline : Instant) (answers : ℕ → Answer) (clock : ℕ → Instant),
      (∀ n, EndsAt deadline answers clock n →
        ∃ a, IsLifeUntil deadline answers clock timeout n a ∧
          ∀ m, await timeout deadline (looks answers clock m) = if n < m then some a else none) ∧
      ((∀ n, ¬EndsAt deadline answers clock n) →
        ∀ m, await timeout deadline (looks answers clock m) = none) ∧
      ∀ m, ((∃ status, answers m = .ended status) ∨ (∃ reason, answers m = .failed reason) ∨
          deadline.reached (clock m) = true) → ∃ n ≤ m, EndsAt deadline answers clock n) ∧
    ∀ (c : Command) (around : Surroundings) (profile : Option Profile),
      c.IsAccount around profile (c.run around profile) := by
  refine ⟨fun timeout deadline answers clock => ⟨fun n hends => ?_, fun hnone m => ?_,
    fun m hm => ?_⟩, Command.isAccount⟩
  · exact ⟨_, isLifeUntil hends, fun m => await_looks hends⟩
  · refine await_of_not_isDecisive fun poll hpoll => ?_
    obtain ⟨i, -, rfl⟩ := List.mem_map.mp hpoll
    by_contra hdecisive
    obtain ⟨n, -, hends⟩ := exists_endsAt (by simpa using hdecisive)
    exact hnone n hends
  · apply exists_endsAt
    rcases hm with ⟨status, hended⟩ | ⟨reason, hfailed⟩ | hreached
    · rw [hended]
      rfl
    · rw [hfailed]
      rfl
    · cases answers m with
      | running => exact hreached
      | ended status => rfl
      | failed reason => rfl

/-- A child that ends between two looks, the second of them at its deadline:
its end counts. -/
theorem life_of_late_child : ∃ (deadline : Instant) (answers : ℕ → Answer) (clock : ℕ → Instant),
    deadline = ⟨11, 0⟩ ∧ answers = (fun n => if n = 0 then .running else .ended (.code 3)) ∧
    clock = (fun n => ⟨10 + n, 0⟩) ∧ EndsAt deadline answers clock 1 ∧
    deadline.reached (clock 1) = true ∧
    (∃ a, IsLifeUntil deadline answers clock ⟨1, 0⟩ 1 a ∧
      await ⟨1, 0⟩ deadline (looks answers clock 2) = some a ∧ a.result = .ok (.code 3) ∧
      .kill ∉ a.events) ∧
    ((Command.mk "sh" ["-c", "exit 3"] ⟨1, 0⟩ "unconfined").run
      ⟨fun _ => .ok "", fun _ _ => .ok (looks answers clock 2), ⟨10, 0⟩⟩ none).outcome =
        some (.error (.exited 3)) := by
  obtain ⟨deadline, hdeadline⟩ : ∃ deadline : Instant, deadline = ⟨11, 0⟩ := ⟨_, rfl⟩
  obtain ⟨answers, hanswers⟩ : ∃ answers : ℕ → Answer,
      answers = fun n => if n = 0 then .running else .ended (.code 3) := ⟨_, rfl⟩
  obtain ⟨clock, hclock⟩ : ∃ clock : ℕ → Instant, clock = fun n => ⟨10 + n, 0⟩ := ⟨_, rfl⟩
  have hends : EndsAt deadline answers clock 1 := by
    subst hdeadline hanswers hclock
    exact ⟨by decide, by decide⟩
  have hended : answers 1 = .ended (.code 3) := by rw [hanswers]; rfl
  obtain ⟨a, hlife, hawait⟩ := (life_of_child.1 ⟨1, 0⟩ deadline answers clock).1 1 hends
  refine ⟨deadline, answers, clock, hdeadline, hanswers, hclock, hends, ?_,
    ⟨a, hlife, hawait 2, (hlife.status_iff _).mpr hended, fun hkill => ?_⟩, ?_⟩
  · subst hdeadline hclock
    decide
  · exact hlife.killed_iff.mp hkill 1 (Nat.le_refl 1) _ hended
  · refine ((life_of_child.2 _ _ none).exited_iff 3).mpr ⟨by decide, "unconfined", _, deadline, rfl,
      rfl, ?_, ?_⟩
    · show Instant.add? ⟨10, 0⟩ ⟨1, 0⟩ = some deadline
      rw [hdeadline]
      decide
    · subst hdeadline hanswers hclock
      decide

end SyscallPolicy.Workload
