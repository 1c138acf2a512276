import SyscallPolicy.Elimination.Universe
import SyscallPolicy.Failure
import SyscallPolicy.Settings

/-!
# Search by elimination

The workload runs once without a profile; if that fails, the search ends.  Otherwise
each candidate that is not essential is withheld in a trial of its own, and it is
required exactly when its trial fails.  A trial that could not be run at all ends the
search with that fault.

The trials do not depend on one another, so a pool of workers may run them in any
interleaving.  `discover` runs them in the order of the universe, as a single worker does.
-/

namespace SyscallPolicy.Elimination

open Workload (Outcome RunFailure)

/-- Runs a workload under a profile, or without one. -/
abbrev Runner := Option Profile → Outcome

/-- What is run and what is probed. -/
structure Search where
  runner : Runner
  candidates : Universe
  /-- The most trials that may run at one time; at least one. -/
  parallel : Nat

/-- What a discovery did and what it found. -/
structure Report where
  /-- The runs in order, each with its profile if it had one. -/
  runs : List (Option Profile)
  answer : Except Failure (Option Rule)

namespace Search

/-- A search of the common candidates that uses all of the available processors. -/
def new (runner : Runner) (processors : Nat) : Search :=
  ⟨runner, .ofList Syscall.commonCandidates, processors⟩

/-- Probes these candidates instead. -/
def withCandidates (s : Search) (names : List String) : Search :=
  { s with candidates := .ofList names }

/-- Bounds the trials that may run at one time; the bound is at least one. -/
def withParallel (s : Search) (bound : Nat) : Search :=
  { s with parallel := max bound 1 }

/-- Applies the settings of a search; what they leave open stays as it is. -/
def withSettings (s : Search) (settings : SearchSettings) : Search :=
  let s := match settings.candidates with
    | some names => s.withCandidates names
    | none => s
  match settings.parallel with
  | some bound => s.withParallel bound
  | none => s

/-- The number of workers that share the trials. -/
def workers (s : Search) : Nat :=
  max (min s.parallel s.candidates.probes.length) 1

end Search

/-- Whether the workload fails without a call; the fault, if that could not be found out. -/
def isRequired (runner : Runner) (u : Universe) (name : String) : Except RunFailure Bool :=
  match runner (some (u.trial name)) with
  | .ok () => .ok false
  | .error failure => if failure.isHarnessFault then .error failure else .ok true

/-- The trial of the candidate at a place. -/
def probe (runner : Runner) (u : Universe) (place : u.Place) : Except RunFailure Bool :=
  isRequired runner u (u.nameAt place)

/-- Probes candidates in order up to the first fault: the candidates probed, and those of
them that are required or the fault with its candidate. -/
def probeAll {α : Type} (probe : α → Except RunFailure Bool) :
    List α → List α × Except (α × RunFailure) (List α)
  | [] => ([], .ok [])
  | candidate :: rest =>
    match probe candidate with
    | .error fault => ([candidate], .error (candidate, fault))
    | .ok required =>
      match probeAll probe rest with
      | (probed, .error fault) => (candidate :: probed, .error fault)
      | (probed, .ok found) =>
        (candidate :: probed, .ok (if required then candidate :: found else found))

/-- The runs of a search that probed these places: one without a profile, then the trials. -/
def runsOf (u : Universe) (probed : List u.Place) : List (Option Profile) :=
  none :: probed.map fun place => some (u.trial (u.nameAt place))

/-- The answer of a search whose unconstrained run succeeded. -/
def answerOf (u : Universe) :
    Except (u.Place × RunFailure) (List u.Place) → Except Failure (Option Rule)
  | .error (place, fault) => .error (.probeHarness (u.nameAt place) fault)
  | .ok required => .ok (some (.allow (u.reported required)))

/-- One discovery. -/
def Search.discover (s : Search) : Report :=
  match s.runner none with
  | .error failure => ⟨[none], .error (.executionAborted failure)⟩
  | .ok () =>
    let outcome := probeAll (probe s.runner s.candidates) s.candidates.probes
    ⟨runsOf s.candidates outcome.1, answerOf s.candidates outcome.2⟩

end SyscallPolicy.Elimination
