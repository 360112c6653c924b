import SftpWire.Packet.Kind
import SftpWire.Status.Report

/-!
What can go wrong when packets are read and written, and what is said about it.
-/

namespace SftpWire

/-- A failure of the codec. -/
inductive Fault where
  | short
  | tooLong (length max : Nat)
  /-- A frame declares fewer bytes than it has. -/
  | lengthMismatch (declared actual : Nat)
  /-- A response has a code with no meaning. -/
  | unknownType (code : TypeCode)
  /-- A response has a code that responses do not have. -/
  | unexpectedType (code : TypeCode)
  | status (report : Status)
  | io (failure : IoFailure)
  deriving Repr

namespace Fault

def message : Fault → String
  | .short => "sftp: short packet"
  | .tooLong length max => s!"sftp: packet too long: {length} bytes (maximum {max})"
  | .lengthMismatch declared actual =>
    s!"sftp: frame length mismatch: declared {declared} bytes, got {actual}"
  | .unknownType code => s!"sftp: unknown packet type: {code.toNat}"
  | .unexpectedType code => "sftp: unexpected response packet type: " ++ code.display
  | .status report => report.display
  | .io failure => "sftp: " ++ failure.text

/-- Whether the bytes of a packet were at fault. -/
def isMalformed : Fault → Bool
  | .short | .tooLong _ _ | .lengthMismatch _ _ | .unknownType _ | .unexpectedType _ => true
  | .status _ | .io _ => false

/-- A request has a code that requests do not have. A server answers with the report instead of
breaking off. -/
def unexpectedRequest (code : TypeCode) : Fault :=
  .status (.badMessage (Utf8.ofString ("unexpected request packet type: " ++ code.display)))

/-- A response has a code that responses do not have, with or without a meaning. -/
def unexpectedResponse (code : TypeCode) : Fault :=
  match Kind.ofCode? code with
  | some _ => .unexpectedType code
  | none => .unknownType code

end Fault

/-- The value read; running short is a failure like any other. -/
def Outcome.toExcept {α : Type} : Outcome α → Except Fault α
  | .done value _ => .ok value
  | .short _ => .error .short

end SftpWire
