import SyscallPolicy.AuditLog.Basic
import SyscallPolicy.Elimination.Search

/-!
# Sources of discoveries

A source answers a query with the calls that a workload needs, with nothing, or with a
failure, and may be in another state afterwards.  The built-in sources are audit logs,
searches, templates and the analysis of executables.
-/

namespace SyscallPolicy

/-- The answer of a source to a query. -/
abbrev Discovery := Except Failure (Option Rule)

/-- A type whose values answer queries. -/
class DiscoverySource (σ : Type) where
  /-- One query: its answer, and the source behind it. -/
  query : σ → Discovery × σ

instance : DiscoverySource AuditLog := ⟨AuditLog.query⟩

/-- A search answers every query by the same runs. -/
instance : DiscoverySource Elimination.Search := ⟨fun s => (s.discover.answer, s)⟩

/-- A built-in allow list, by name. -/
structure TemplateSource where
  name : String

namespace TemplateSource

/-- The discovery that a template stands for. -/
def discovery (s : TemplateSource) : Discovery :=
  match Syscall.template? s.name with
  | some names => .ok (some (.allow names))
  | none => .error (.unknownTemplate s.name)

instance : DiscoverySource TemplateSource := ⟨fun s => (s.discovery, s)⟩

end TemplateSource

/-- An executable, and an analyser that lists the calls in it. -/
structure BinarySource where
  path : String
  extract : String → Except Failure (List String)

namespace BinarySource

/-- The calls of the executable, each where it is listed first. -/
def discovery (s : BinarySource) : Discovery :=
  (s.extract s.path).map fun names => some (.allow names.eraseDups)

instance : DiscoverySource BinarySource := ⟨fun s => (s.discovery, s)⟩

end BinarySource

/-- Answers that were recorded before; behind the last of them there is nothing. -/
structure RecordedSource where
  answers : List Discovery

namespace RecordedSource

def query (s : RecordedSource) : Discovery × RecordedSource :=
  match s.answers with
  | [] => (.ok none, s)
  | answer :: rest => (answer, ⟨rest⟩)

instance : DiscoverySource RecordedSource := ⟨query⟩

end RecordedSource

/-- Any of the sources. -/
inductive AnySource where
  | log (source : AuditLog)
  | search (source : Elimination.Search)
  | template (source : TemplateSource)
  | binary (source : BinarySource)
  | recorded (source : RecordedSource)

namespace AnySource

/-- Queries a source and puts what is left of it back in place. -/
def via {σ : Type} [DiscoverySource σ] (wrap : σ → AnySource) (source : σ) :
    Discovery × AnySource :=
  match DiscoverySource.query source with
  | (answer, source) => (answer, wrap source)

def query : AnySource → Discovery × AnySource
  | log source => via log source
  | search source => via search source
  | template source => via template source
  | binary source => via binary source
  | recorded source => via recorded source

instance : DiscoverySource AnySource := ⟨query⟩

end AnySource

end SyscallPolicy
