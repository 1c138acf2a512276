/-!
# Streams of bytes

A stream delivers bytes and then either ends or fails at every further read.  Lines end
behind each line feed, which stays with its line; what follows the last line feed is a
line only if the stream ends there, since a reader that fails never sees its end.
-/

namespace SyscallPolicy

/-- Bytes to read, and the failure that meets a reader after the last of them, if any. -/
structure ByteStream where
  bytes : ByteArray
  fault : Option String

/-- A stream that delivers a text and ends. -/
def ByteStream.ofText (text : String) : ByteStream :=
  ⟨text.toUTF8, none⟩

/-- The bytes of one line, with its line feed if it has one. -/
abbrev Line := List UInt8

namespace Line

/-- What ends a line. -/
def feed : UInt8 := 0x0A

/-- Cuts bytes behind each line feed. -/
def split : List UInt8 → List Line
  | [] => []
  | b :: rest =>
    if b = feed then [b] :: split rest
    else
      match split rest with
      | [] => [[b]]
      | line :: lines => (b :: line) :: lines

/-- Whether a line has its line feed. -/
def isTerminated (line : Line) : Bool :=
  line.getLast? == some feed

end Line

/-- A stream that delivers lines and ends. -/
def ByteStream.ofLines (lines : List Line) : ByteStream :=
  ⟨lines.flatten.toByteArray, none⟩

/-- The lines that a reader of the stream gets to see. -/
def ByteStream.lines (stream : ByteStream) : List Line :=
  match stream.fault with
  | none => Line.split stream.bytes.toList
  | some _ => (Line.split stream.bytes.toList).filter Line.isTerminated

end SyscallPolicy
