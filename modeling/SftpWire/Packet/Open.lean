import SftpWire.Packet.Request
import SftpWire.Packet.Response

/-!
Payloads of any type. The layouts that are known here are not all that there can be: whoever has a
type of payloads of his own can register what makes them of the bytes behind a name, and can send
them in replies if only there is a way to write them. Where payloads of different types come
together, `box` puts those of the layouts that are known here among the others.
-/

namespace SftpWire

variable {π : Type}

/-! ## Requests -/

/-- What makes a payload of the bytes behind a name. -/
abbrev PayloadMaker (π : Type) := Bytes → Except Fault π

/-- Registered names with what makes their payloads, the latest first. -/
structure OpenRegistry (π : Type) where
  entries : List (String × PayloadMaker π)

/-- A request whose payload, if it is an extended one, is of any type. -/
inductive OpenRequest (π : Type) where
  | closed (request : Request)
  | extended (name : Bytes) (payload : π)

/-- What makes payloads of a layout. -/
def PayloadKind.maker (box : Payload → π) (kind : PayloadKind) : PayloadMaker π :=
  fun rest => (kind.reader.run rest).toExcept.map box

def Registry.opened (box : Payload → π) (registry : Registry) : OpenRegistry π where
  entries := registry.entries.map fun entry => (entry.1, entry.2.maker box)

def Request.opened (box : Payload → π) : Request → OpenRequest π
  | .extended name payload => .extended name (box payload)
  | request => .closed request

namespace OpenRegistry

def register (registry : OpenRegistry π) (name : String) (maker : PayloadMaker π) :
    OpenRegistry π :=
  { entries := (name, maker) :: registry.entries }

/-- Makes registrations in turn. -/
def registerAll (registry : OpenRegistry π) (registrations : List (String × PayloadMaker π)) :
    OpenRegistry π :=
  registrations.foldl (fun registry entry => registry.register entry.1 entry.2) registry

/-- What makes the payloads of a name; without a registration they are kept as bytes. -/
def resolve (box : Payload → π) (registry : OpenRegistry π) (name : Bytes) : PayloadMaker π :=
  (Registry.lookup registry.entries name).getD (PayloadKind.raw.maker box)

/-- The request of a frame. -/
def ofFrame (box : Payload → π) (registry : OpenRegistry π) (frame : Frame) :
    Except Fault (Message (OpenRequest π)) :=
  if frame.code = Kind.extended.code then
    match Reader.string.run frame.body with
    | .short _ => .error .short
    | .done name rest =>
      (registry.resolve box name rest).map fun payload =>
        { id := frame.id, packet := .extended name payload }
  else
    (Request.ofFrame .initial frame).map fun message =>
      { id := message.id, packet := .closed message.packet }

/-- The request that bytes are. -/
def decode (box : Payload → π) (registry : OpenRegistry π) (bytes : Bytes) :
    Except Fault (Message (OpenRequest π)) := do
  let frame ← Frame.decode bytes
  ofFrame box registry frame

end OpenRegistry

/-! ## Replies -/

/-- A reply whose payload is of any type that is written in some way. -/
structure OpenReply (π : Type) where
  write : π → Bytes
  payload : π

/-- A reply with a payload of a layout that is known here. -/
def Payload.reply (payload : Payload) : OpenReply Payload where
  write := Payload.bytes
  payload := payload

namespace OpenReply

/-- How the payload is written. -/
def written (reply : OpenReply π) : Bytes :=
  reply.write reply.payload

/-- A reply ready to be sent. -/
def encode (id : UInt32) (reply : OpenReply π) : Encoded :=
  Frame.assemble Kind.extendedReply.code id reply.written []

/-- Reads the payload in the layout of the given kind, from the bytes that it is written as. -/
def readAs (kind : PayloadKind) (reply : OpenReply π) : Except Fault Payload :=
  (kind.reader.run reply.written).toExcept

end OpenReply

end SftpWire
