import SftpWire.Limits

/-!
Failures as a program above the codec sees them: the system's, those of its settings, those of the
protocol, and reports that it is given.
-/

namespace SftpWire

/-- A failure. -/
inductive Failure where
  | io (failure : IoFailure)
  | config (fault : LimitsFault)
  /-- The bytes of a packet were at fault. -/
  | protocol (fault : Fault)
  | other (status : Status)
  deriving Repr

namespace Failure

/-- A failure of the codec, sorted by where it comes from. -/
def ofFault : Fault → Failure
  | .io failure => .io failure
  | .status report => .other report
  | fault => .protocol fault

def message : Failure → String
  | .io failure => "IO error: " ++ failure.text
  | .config fault => "Configuration error: " ++ fault.message
  | .protocol fault => "Protocol error: " ++ fault.message
  | .other status => "Error: " ++ status.display

/-- Whether a failure is one of the system, of the given kind. -/
def isKind (kind : IoKind) : Failure → Bool
  | .io failure => failure.kind == kind
  | _ => false

end Failure

end SftpWire
