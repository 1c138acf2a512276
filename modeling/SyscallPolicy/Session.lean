import SyscallPolicy.Profile.Document
import SyscallPolicy.Profile.Exposure
import SyscallPolicy.Synthesis

/-!
# Sessions

A session works on one synthesizer call by call, so a source that is consumed as it is
read stays consumed for all later calls.  It remembers the last profile that was made;
a call that makes none leaves that profile as it is.
-/

namespace SyscallPolicy

/-- What a session can be asked to do. -/
inductive SessionCall where
  /-- Query the source. -/
  | discover
  /-- Set the targets. -/
  | targets (names : List String)
  /-- Set whether finding nothing means no profile. -/
  | nilForNoCalls (enabled : Bool)
  /-- Make a profile. -/
  | synthesize
  /-- Analyse the last profile. -/
  | verify
  /-- Print the last profile. -/
  | print
  deriving DecidableEq, Repr

/-- What a session answers. -/
inductive SessionReply where
  | discovered (answer : Discovery)
  | changed
  | synthesized (answer : Except Failure (Option Profile))
  | verified (findings : Option Verification)
  | printed (text : Option String)

/-- A session. -/
structure Session (σ : Type) where
  synthesizer : Synthesizer σ
  /-- The last profile that was made. -/
  last : Option Profile

namespace Session

variable {σ : Type} [DiscoverySource σ]

/-- One call: its reply, and the session behind it. -/
def step (s : Session σ) : SessionCall → SessionReply × Session σ
  | .discover =>
    match s.synthesizer.query with
    | (answer, synthesizer) => (.discovered answer, { s with synthesizer })
  | .targets names => (.changed, { s with synthesizer := s.synthesizer.withTargets names })
  | .nilForNoCalls enabled =>
    (.changed, { s with synthesizer := s.synthesizer.withNilForNoCalls enabled })
  | .synthesize =>
    match s.synthesizer.profile with
    | (.ok (some p), synthesizer) => (.synthesized (.ok (some p)), ⟨synthesizer, some p⟩)
    | (answer, synthesizer) => (.synthesized answer, { s with synthesizer })
  | .verify => (.verified (s.last.map Profile.verify), s)
  | .print => (.printed (s.last.map Profile.prettyText), s)

/-- The replies to several calls. -/
def replies (s : Session σ) : List SessionCall → List SessionReply
  | [] => []
  | call :: calls =>
    match s.step call with
    | (reply, s) => reply :: replies s calls

end Session

end SyscallPolicy
