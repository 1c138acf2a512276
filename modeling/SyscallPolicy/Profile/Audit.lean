import SyscallPolicy.ByteStream
import SyscallPolicy.Profile.Document
import SyscallPolicy.Profile.Exposure

/-!
# Audits of stored profiles

An audit reads a stream of bytes to its end, takes it for UTF-8 text of a profile
document, and analyses that profile.  Whatever goes wrong on the way, also a failure
of the stream, means that there is no valid profile.
-/

namespace SyscallPolicy

namespace Profile

/-- The profile that the bytes of a stream stand for. -/
def ofStream? (stream : ByteStream) : Option Profile :=
  match stream.fault with
  | some _ => none
  | none => (String.fromUTF8? stream.bytes).bind ofText?

/-- The audit of a stored profile. -/
def audit (stream : ByteStream) : Except Failure Verification :=
  match ofStream? stream with
  | some p => .ok p.verify
  | none => .error .invalidProfile

end Profile

end SyscallPolicy
