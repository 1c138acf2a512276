import SyscallPolicy.AuditLog.Field
import SyscallPolicy.AuditLog.History
import SyscallPolicy.AuditLog.Pattern
import SyscallPolicy.Elimination.Monotone
import SyscallPolicy.Elimination.Pool
import SyscallPolicy.Host.Basic
import SyscallPolicy.Json.Spelling
import SyscallPolicy.Profile.Audit
import SyscallPolicy.Profile.Resolution
import SyscallPolicy.Profile.Spelling
import SyscallPolicy.Session
import SyscallPolicy.Toml.Writer
import SyscallPolicy.Workload.Rehearsal
import SyscallPolicy.Host.Regex.Ordered.Basic
import SyscallPolicy.Host.Regex.Ordered.Reader
import SyscallPolicy.Proofs.AuditLog.Queries
import SyscallPolicy.Proofs.Elimination.Faults
import SyscallPolicy.Proofs.Elimination.Sufficient
import SyscallPolicy.Proofs.Profile.Audit
import SyscallPolicy.Proofs.Profile.Exposure
import SyscallPolicy.Proofs.Profile.Spelled
import SyscallPolicy.Proofs.Elimination.Sequential
import SyscallPolicy.Proofs.Synthesis.Canonical
import SyscallPolicy.Proofs.Synthesis.Audited
import SyscallPolicy.Proofs.Profile.Prefix
import SyscallPolicy.Proofs.AuditLog.FirstQuery
import SyscallPolicy.Proofs.AuditLog.Processes
import SyscallPolicy.Proofs.Synthesis.Reordered
import SyscallPolicy.Proofs.Elimination.Repeated
import SyscallPolicy.Proofs.Elimination.WindingDown
import SyscallPolicy.Proofs.Source
import SyscallPolicy.Proofs.Synthesis.Sessions
import SyscallPolicy.Proofs.Profile.Findings
import SyscallPolicy.Proofs.Profile.Changes
import SyscallPolicy.Proofs.AuditLog.Patterns
import SyscallPolicy.Proofs.Elimination.Alone
import SyscallPolicy.Proofs.Elimination.Runs
import SyscallPolicy.Proofs.AuditLog.FreeText
import SyscallPolicy.Proofs.Synthesis.Candidates
import SyscallPolicy.Proofs.Workload.Lifecycle
import SyscallPolicy.Proofs.Workload.Deadline
import SyscallPolicy.Proofs.Toml.Spelling
import SyscallPolicy.Proofs.Toml.Lexeme
import SyscallPolicy.Proofs.Toml.Number
import SyscallPolicy.Proofs.Toml.Scalar
import SyscallPolicy.Proofs.Toml.Tree
import SyscallPolicy.Proofs.Toml.Complete
import SyscallPolicy.Proofs.Toml.Sections
import SyscallPolicy.Proofs.Settings.Valid
import SyscallPolicy.Proofs.Settings.Document
import SyscallPolicy.Proofs.Toml.Written
import SyscallPolicy.Proofs.Settings.Written
import SyscallPolicy.Proofs.Settings.Assigned
