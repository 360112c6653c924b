import SftpWire.Packet.Frame

/-!
Packets with the id that joins a response to its request, and the two forms in which the packets of
either side are built: a body that is read to its end or only as far as its fields go, and fields
that are shown under the name of their kind.
-/

namespace SftpWire

/-- A packet with its id. -/
structure Message (α : Type) where
  /-- The id of the request, zero for packets that carry none. -/
  id : UInt32
  packet : α
  deriving DecidableEq, Repr

namespace Message

/-- The packet of a frame, if there is a reader for packets of its code. Bytes that the reader
leaves are passed over. -/
def ofFrame {α : Type} (reader? : Kind → Option (Reader α)) (unexpected : TypeCode → Fault)
    (frame : Frame) : Except Fault (Message α) :=
  match (Kind.ofCode? frame.code).bind reader? with
  | none => .error (unexpected frame.code)
  | some reader =>
    match reader.run frame.body with
    | .done packet _ => .ok { id := frame.id, packet }
    | .short _ => .error .short

end Message

def Kind.shape (kind : Kind) (fields : List (String × String)) : String :=
  Shape.tagged kind.title (Shape.record (kind.title ++ "Packet") fields)

end SftpWire
