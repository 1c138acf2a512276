import Mathlib.Algebra.Group.Int.Defs
import SyscallPolicy.Proofs.Settings.Valid
import SyscallPolicy.Proofs.Workload.Lifecycle

/-!
# Deadlines of accepted settings

A run may take as long as the settings say, and settings are accepted whatever
time they name, if only it is a second.  The clock counts seconds in 64 bits
with a sign, so it can show the deadline of a run unless the time ends beyond
them (`Instant.add?_ofSeconds`).

If it can, the child of the run is waited for and reaped.  If it cannot, that
turns out when the child has been started; then the run has no outcome, and
nobody waits for the child (`deadline_of_accepted_settings`).
-/

namespace SyscallPolicy

/-! ## Accepted settings -/

namespace Settings

variable {settings : Settings}

/-- Whether settings are accepted, as they stand or written in a document. -/
def IsAccepted (settings : Settings) : Prop :=
  settings.validate = .ok () ∨ ∃ text, ofText text = .ok settings

theorem IsAccepted.timeoutSecs_pos (haccepted : settings.IsAccepted) :
    0 < settings.runner.timeoutSecs := by
  have hvalid : settings.validate = .ok () := by
    rcases haccepted with hvalid | ⟨text, htext⟩
    · exact hvalid
    · exact (ofText_eq_ok_iff.mp htext).2
  exact Nat.pos_of_ne_zero (validate_eq_ok_iff.mp hvalid).2.2

end Settings

namespace Workload

variable {now deadline : Instant} {c : Command} {around : Surroundings} {profile : Option Profile}
  {value : String} {polls : List Poll}

/-! ## Deadlines that the clock can show -/

/-- Whether a clock may show this: it has gone for a second, and not for ages. -/
structure Instant.IsRealistic (now : Instant) : Prop where
  one_le_secs : 1 ≤ now.secs
  secs_le : now.secs ≤ 2 ^ 40
  nanos_lt : now.nanos < Duration.nanosPerSecond

theorem Instant.add?_ofSeconds (hnanos : now.nanos < Duration.nanosPerSecond) (secs : ℕ) :
    now.add? (.ofSeconds secs) =
      if now.secs + secs < 2 ^ 63 then some ⟨now.secs + secs, now.nanos⟩ else none := by
  have hdiv : now.nanos / Duration.nanosPerSecond = 0 := Nat.div_eq_of_lt hnanos
  have hmod : now.nanos % Duration.nanosPerSecond = now.nanos := Nat.mod_eq_of_lt hnanos
  simp [add?, Duration.ofSeconds, hdiv, hmod, secsBound]

/-- A deadline in a later second is not reached yet. -/
theorem Instant.reached_eq_false_of_secs_lt (hlt : now.secs < deadline.secs) :
    deadline.reached now = false := by
  simp only [reached, Bool.or_eq_false_iff, Bool.and_eq_false_iff, decide_eq_false_iff_not,
    beq_eq_false_iff_ne]
  omega

/-! ## Children and their deadlines -/

namespace Command

/-- A child whose deadline cannot be shown is started, and that is all. -/
theorem run_of_add?_eq_none (hnone : around.clock.add? c.timeout = none)
    (hvalue : c.substitute around profile = .ok value)
    (hstart : around.start c.program (c.argsWith value) = .ok polls) :
    c.run around profile = ⟨[.spawn], none⟩ := by
  rw [run_of_start_eq_ok hvalue hstart]
  unfold watch
  rw [hnone]

/-- A child with a deadline is reaped if it is watched long enough. -/
theorem reaped_of_isDecisive (hdeadline : around.clock.add? c.timeout = some deadline)
    (hvalue : c.substitute around profile = .ok value)
    (hstart : around.start c.program (c.argsWith value) = .ok polls)
    (hdecisive : ∃ poll ∈ polls, poll.isDecisive deadline = true) :
    (∃ o, (c.run around profile).outcome = some o) ∧
      (c.run around profile).events.getLast? = some .reap := by
  obtain ⟨poll, hfind⟩ : ∃ poll, polls.find? (·.isDecisive deadline) = some poll := by
    rw [← Option.isSome_iff_exists, List.find?_isSome]
    exact hdecisive
  have hends : c.EndsWith around profile poll :=
    ⟨value, polls, deadline, hvalue, hstart, hdeadline, hfind⟩
  obtain ⟨n, hrun⟩ := hends.run_eq
  exact ⟨⟨_, congrArg Run.outcome hrun⟩, hends.reaped.1⟩

end Command

/-- Accepted settings give a run a deadline that comes later, and that the
clock can show or not.  If it can, every child that is started is reaped when
the run comes to its end.  If it cannot, a child that is started is left to
itself. -/
theorem deadline_of_accepted_settings (settings : Settings) (haccepted : settings.IsAccepted)
    (around : Surroundings) (hclock : around.clock.IsRealistic) (profile : Option Profile)
    (command c : Command) (hc : c = command.withSettings settings.runner) :
    ((∃ deadline, around.clock.add? c.timeout = some deadline) ↔
      around.clock.secs + settings.runner.timeoutSecs < 2 ^ 63) ∧
    (∀ deadline, around.clock.add? c.timeout = some deadline →
      deadline.reached around.clock = false ∧
      ∀ value polls, c.substitute around profile = .ok value →
        around.start c.program (c.argsWith value) = .ok polls →
        (∃ poll ∈ polls, poll.isDecisive deadline = true) →
          (∃ o, (c.run around profile).outcome = some o) ∧
            (c.run around profile).events.getLast? = some .reap) ∧
    (around.clock.add? c.timeout = none →
      ∀ value polls, c.substitute around profile = .ok value →
        around.start c.program (c.argsWith value) = .ok polls →
          c.run around profile = ⟨[.spawn], none⟩) := by
  have htimeout : c.timeout = .ofSeconds settings.runner.timeoutSecs := by rw [hc]; rfl
  have hadd := Instant.add?_ofSeconds hclock.nanos_lt settings.runner.timeoutSecs
  rw [← htimeout] at hadd
  refine ⟨?_, fun deadline hdeadline => ⟨?_, fun value polls hvalue hstart hdecisive => ?_⟩,
    fun hnone value polls hvalue hstart => Command.run_of_add?_eq_none hnone hvalue hstart⟩
  · by_cases hfits : around.clock.secs + settings.runner.timeoutSecs < 2 ^ 63
    · rw [if_pos hfits] at hadd
      exact iff_of_true ⟨_, hadd⟩ hfits
    · rw [if_neg hfits] at hadd
      refine iff_of_false ?_ hfits
      rintro ⟨deadline, hdeadline⟩
      cases hadd.symm.trans hdeadline
  · apply Instant.reached_eq_false_of_secs_lt
    have hpos := haccepted.timeoutSecs_pos
    rw [hadd, Option.ite_none_right_eq_some] at hdeadline
    obtain rfl := Option.some.inj hdeadline.2
    show around.clock.secs < around.clock.secs + (settings.runner.timeoutSecs : ℤ)
    omega
  · exact Command.reaped_of_isDecisive hdeadline hvalue hstart hdecisive

/-- A workload that may run for five seconds, and would run for nine. -/
theorem deadline_of_five_seconds : ∃ (settings : Settings) (around : Surroundings) (c : Command),
    Settings.ofText "[runner]\ntimeout_secs = 5\n" = .ok settings ∧ settings.IsAccepted ∧
    around = ⟨fun _ => .ok "", fun _ _ => .ok [.running ⟨1004, 0⟩, .running ⟨1005, 0⟩], ⟨1000, 0⟩⟩ ∧
    around.clock.IsRealistic ∧ c = (Command.new "sleep" ["9"]).withSettings settings.runner ∧
    around.clock.add? c.timeout = some ⟨1005, 0⟩ ∧
    (∃ o, (c.run around none).outcome = some o) ∧
    (c.run around none).events.getLast? = some .reap := by
  have htext : Settings.ofText "[runner]\ntimeout_secs = 5\n" =
      .ok { runner := { timeoutSecs := 5 } } :=
    Settings.ofText_eq_ok_iff.mpr ⟨by decide +kernel, rfl⟩
  have haccepted : Settings.IsAccepted { runner := { timeoutSecs := 5 } } := .inr ⟨_, htext⟩
  have hclock : (⟨1000, 0⟩ : Instant).IsRealistic := ⟨by decide, by decide, by decide⟩
  have hdeadline : (⟨1000, 0⟩ : Instant).add? (.ofSeconds 5) = some ⟨1005, 0⟩ := by decide
  obtain ⟨-, hreaped, -⟩ := deadline_of_accepted_settings { runner := { timeoutSecs := 5 } }
    haccepted
    ⟨fun _ => .ok "", fun _ _ => .ok [.running ⟨1004, 0⟩, .running ⟨1005, 0⟩], ⟨1000, 0⟩⟩ hclock
    none (Command.new "sleep" ["9"]) _ rfl
  exact ⟨_, _, _, htext, haccepted, rfl, hclock, rfl, hdeadline,
    (hreaped _ hdeadline).2 _ _ rfl rfl ⟨.running ⟨1005, 0⟩, by simp, by decide⟩⟩

/-- The greatest timeout that a document can name is accepted, and a clock that
has gone for a second cannot show the deadline: the child is started and left
to itself. -/
theorem deadline_of_greatest_timeout : ∃ (settings : Settings) (around : Surroundings)
    (c : Command),
    Settings.ofText "[runner]\ntimeout_secs = 9223372036854775807\n" = .ok settings ∧
    settings.IsAccepted ∧
    around = ⟨fun _ => .ok "", fun _ _ => .ok [.ended (.code 0)], ⟨1, 0⟩⟩ ∧
    around.clock.IsRealistic ∧ c = (Command.new "true" []).withSettings settings.runner ∧
    around.clock.add? c.timeout = none ∧ c.run around none = ⟨[.spawn], none⟩ := by
  have htext : Settings.ofText "[runner]\ntimeout_secs = 9223372036854775807\n" =
      .ok { runner := { timeoutSecs := 9223372036854775807 } } :=
    Settings.ofText_eq_ok_iff.mpr ⟨by decide +kernel, rfl⟩
  have hclock : (⟨1, 0⟩ : Instant).IsRealistic := ⟨by decide, by decide, by decide⟩
  have hnone : (⟨1, 0⟩ : Instant).add? (.ofSeconds 9223372036854775807) = none := by decide
  exact ⟨_, _, _, htext, .inr ⟨_, htext⟩, rfl, hclock, rfl, hnone,
    Command.run_of_add?_eq_none hnone rfl rfl⟩

end Workload

end SyscallPolicy
