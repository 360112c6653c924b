import SftpWire.Packet.Response

/-!
Writing packets to a stream that may be full. A write that does not fit leaves as much of it as
does, and a header that does not fit is not followed by its payload.
-/

namespace SftpWire

/-- A stream that takes a number of bytes and no more. -/
structure Sink where
  capacity : Nat
  written : Bytes := []
  deriving DecidableEq, Repr

namespace Sink

/-- The stream takes no more. -/
def full : Fault :=
  .io { kind := .writeZero, text := "write zero" }

/-- Writes bytes. -/
def write (bytes : Bytes) (sink : Sink) : Except Fault Unit × Sink :=
  let space := sink.capacity - sink.written.length
  let next := { sink with written := sink.written ++ bytes.take space }
  if bytes.length ≤ space then (.ok (), next) else (.error full, next)

def writeFrame (encoded : Encoded) (sink : Sink) : Except Fault Unit × Sink :=
  match sink.write encoded.header with
  | (.error fault, next) => (.error fault, next)
  | (.ok (), next) =>
    match encoded.payload with
    | none => (.ok (), next)
    | some payload => next.write payload

def writeRequest (id : UInt32) (request : Request) (sink : Sink) : Except Fault Unit × Sink :=
  sink.writeFrame (request.encode id)

def writeResponse (id : UInt32) (response : Response) (sink : Sink) : Except Fault Unit × Sink :=
  sink.writeFrame (response.encode id)

end Sink

end SftpWire
