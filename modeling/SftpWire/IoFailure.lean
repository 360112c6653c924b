/-!
Failures of the system that the codec runs on: a kind, which programs tell apart, and a text, which
people read.
-/

namespace SftpWire

/-- The kinds of system failure. Systems tell more of them apart than are listed here. -/
inductive IoKind where
  | notFound
  | permissionDenied
  | connectionRefused
  | connectionReset
  | connectionAborted
  | notConnected
  | addrInUse
  | addrNotAvailable
  | brokenPipe
  | alreadyExists
  | wouldBlock
  | invalidInput
  | invalidData
  | timedOut
  | writeZero
  | interrupted
  | unsupported
  | unexpectedEof
  | outOfMemory
  | other
  /-- A kind that is not listed, by its name. -/
  | unlisted (label : String)
  deriving DecidableEq, Repr

namespace IoKind

/-- The listed kinds, in the order in which lists of them are given. -/
def all : List IoKind :=
  [.notFound, .permissionDenied, .connectionRefused, .connectionReset, .connectionAborted,
   .notConnected, .addrInUse, .addrNotAvailable, .brokenPipe, .alreadyExists, .wouldBlock,
   .invalidInput, .invalidData, .timedOut, .writeZero, .interrupted, .unsupported,
   .unexpectedEof, .outOfMemory, .other]

def label : IoKind → String
  | .notFound => "NotFound"
  | .permissionDenied => "PermissionDenied"
  | .connectionRefused => "ConnectionRefused"
  | .connectionReset => "ConnectionReset"
  | .connectionAborted => "ConnectionAborted"
  | .notConnected => "NotConnected"
  | .addrInUse => "AddrInUse"
  | .addrNotAvailable => "AddrNotAvailable"
  | .brokenPipe => "BrokenPipe"
  | .alreadyExists => "AlreadyExists"
  | .wouldBlock => "WouldBlock"
  | .invalidInput => "InvalidInput"
  | .invalidData => "InvalidData"
  | .timedOut => "TimedOut"
  | .writeZero => "WriteZero"
  | .interrupted => "Interrupted"
  | .unsupported => "Unsupported"
  | .unexpectedEof => "UnexpectedEof"
  | .outOfMemory => "OutOfMemory"
  | .other => "Other"
  | .unlisted label => label

/-- The listed kind of a name. -/
def ofLabel? (label : String) : Option IoKind :=
  all.find? fun kind => kind.label == label

end IoKind

/-- A failure of the system. -/
structure IoFailure where
  kind : IoKind
  text : String
  deriving DecidableEq, Repr

end SftpWire
