import SftpWire.Packet.Fault

/-!
Limits: how long a packet may be and how much data it may carry. They are set once, and a peer is
held to them before anything is stored for it. Limits are valid when neither is zero and a response
that gives data of the full length is no longer than a packet may be.
-/

namespace SftpWire

/-- The limits. -/
structure Limits where
  /-- The longest packet, in bytes behind its length. -/
  maxPacketLength : UInt32 := 34000
  maxDataLength : UInt32 := 32768
  deriving DecidableEq, Repr

/-- Why limits cannot be had. -/
inductive LimitsFault where
  | zeroPacketLength
  | zeroDataLength
  /-- A response with data of the full length would be too long. -/
  | dataTooLong (data packet : UInt32)
  /-- The document that was to give them does not, and what its parser says about that. -/
  | invalidDocument (complaint : String)
  deriving DecidableEq, Repr

def LimitsFault.message : LimitsFault → String
  | .zeroPacketLength => "max_packet_length must be non-zero"
  | .zeroDataLength => "max_data_length must be non-zero"
  | .dataTooLong data packet =>
    s!"max_data_length ({data.toNat}) does not fit in max_packet_length ({packet.toNat})"
  | .invalidDocument complaint => complaint

namespace Limits

/-- The bytes before the data of a response that gives data: a code, an id and a length. -/
def dataOverhead : Nat := 9

/-- Valid limits are themselves. -/
def check (limits : Limits) : Except LimitsFault Limits :=
  if limits.maxPacketLength = 0 then .error .zeroPacketLength
  else if limits.maxDataLength = 0 then .error .zeroDataLength
  else if limits.maxPacketLength.toNat - dataOverhead < limits.maxDataLength.toNat then
    .error (.dataTooLong limits.maxDataLength limits.maxPacketLength)
  else .ok limits

/-- The limits that are given, and the usual ones where none is. -/
def ofOptions (packet data : Option UInt32) : Limits :=
  let usual : Limits := {}
  { maxPacketLength := packet.getD usual.maxPacketLength
    maxDataLength := data.getD usual.maxDataLength }

/-- The limits that are given, if they are valid. -/
def make (packet data : Option UInt32) : Except LimitsFault Limits :=
  (ofOptions packet data).check

/-- A length that a peer asks for, cut to the most data there can be. -/
def clamp (limits : Limits) (length : UInt32) : UInt32 :=
  min length limits.maxDataLength

/-- Refuses data that is too long for one packet. -/
def checkData (limits : Limits) (data : Bytes) : Except Fault Unit :=
  let length := Bytes.lengthWord data.length
  if limits.maxDataLength < length then
    .error (.tooLong length.toNat limits.maxDataLength.toNat)
  else .ok ()

end Limits

end SftpWire
