import SftpWire.Packet.Fault

/-!
Frames. A frame is the length of what follows, the code of the packet, the id of the request unless
the packet opens a session, and the body. The length counts all that follows it, also the part of
the body that is sent as a payload of its own so that it need not be copied.
-/

namespace SftpWire

/-- A frame whose body has not been read. -/
structure Frame where
  code : TypeCode
  /-- The id of the request, zero where none is carried. -/
  id : UInt32
  body : Bytes
  deriving DecidableEq, Repr

/-- A packet ready to be sent. -/
structure Encoded where
  /-- The length, the code, the id and the body up to the payload. -/
  header : Bytes
  /-- The rest of the body, if it is sent on its own. -/
  payload : Option Bytes
  deriving DecidableEq, Repr

def Encoded.bytes (encoded : Encoded) : Bytes :=
  encoded.header ++ encoded.payload.getD []

namespace Frame

def reader : Reader Frame := do
  let code ← Reader.byte
  let id ← if TypeCode.carriesId code then Reader.word32 else pure 0
  let body ← Reader.remaining
  return { code, id, body }

/-- The frame that bytes are when its length has been taken off. -/
def ofContent (content : Bytes) : Except Fault Frame :=
  (reader.run content).toExcept

/-- The frame that bytes are. The length must be right: a frame that declares more than there is
runs short, and one that declares less does not match. -/
def decode (bytes : Bytes) : Except Fault Frame :=
  match Reader.word32.run bytes with
  | .short _ => .error .short
  | .done declared content =>
    if content.length < declared.toNat then .error .short
    else if declared.toNat < content.length then
      .error (.lengthMismatch declared.toNat content.length)
    else ofContent content

/-- Room for the length. -/
def room : Bytes := [0, 0, 0, 0]

/-- The code of a packet and, if it carries one, the id. -/
def head (code : TypeCode) (id : UInt32) : Bytes :=
  code :: if code.carriesId then Bytes.ofWord32 id else []

/-- Writes a length over the first four bytes; where there are fewer, they give way to it. -/
def setLength (length : UInt32) (draft : Bytes) : Bytes :=
  Bytes.ofWord32 length ++ draft.drop 4

/-- Writes the length of a draft that begins with the room for it and goes on in a payload. -/
def close (payloadLength : Nat) (draft : Bytes) : Bytes :=
  setLength (Bytes.lengthWord (draft.length - 4 + payloadLength)) draft

/-- A packet of the given code and id whose body is the fields and then the bulk. The bulk becomes
the payload, if there is any. -/
def assemble (code : TypeCode) (id : UInt32) (fields bulk : Bytes) : Encoded where
  header := close bulk.length (room ++ head code id ++ fields)
  payload := if bulk.isEmpty then none else some bulk

/-- A frame ready to be sent again; the whole body is the payload. -/
def encode (frame : Frame) : Encoded :=
  assemble frame.code frame.id [] frame.body

end Frame

end SftpWire
