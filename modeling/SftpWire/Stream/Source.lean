import SftpWire.Limits
import SftpWire.Packet.Response

/-!
Reading packets from a stream, which is the bytes that have not been read. The length of a frame is
looked at before any of what follows is read, so a frame that is too long costs four bytes; every
other frame is taken whole, whether its content makes sense or not, and the next read begins at the
next frame.
-/

namespace SftpWire.Source

/-- The stream ended inside the length of a frame. -/
def endInLength : Fault :=
  .io { kind := .unexpectedEof, text := "unexpected end of file" }

/-- The stream ended inside a frame. -/
def endInFrame : Fault :=
  .io { kind := .unexpectedEof, text := "early eof" }

def readFrame (limits : Limits) (stream : Bytes) : Except Fault Frame × Bytes :=
  match Reader.word32.run stream with
  | .short _ => (.error endInLength, [])
  | .done length rest =>
    if limits.maxPacketLength < length then
      (.error (.tooLong length.toNat limits.maxPacketLength.toNat), rest)
    else
      match Bytes.split? length.toNat rest with
      | none => (.error endInFrame, [])
      | some (content, next) => (Frame.ofContent content, next)

def readRequest (limits : Limits) (registry : Registry) (stream : Bytes) :
    Except Fault (Message Request) × Bytes :=
  let (frame, next) := readFrame limits stream
  (frame.bind (Request.ofFrame registry), next)

def readResponse (limits : Limits) (stream : Bytes) : Except Fault (Message Response) × Bytes :=
  let (frame, next) := readFrame limits stream
  (frame.bind Response.ofFrame, next)

/-- How the next frame is to be read. -/
inductive Call where
  | frame
  | request
  | response
  deriving DecidableEq, Repr

/-- What was read. -/
inductive Item where
  | frame (frame : Frame)
  | request (message : Message Request)
  | response (message : Message Response)

/-- Reads one frame as the call says. -/
def Call.run (limits : Limits) (registry : Registry) (call : Call) (stream : Bytes) :
    Except Fault Item × Bytes :=
  match call with
  | .frame =>
    let (result, next) := readFrame limits stream
    (result.map Item.frame, next)
  | .request =>
    let (result, next) := readRequest limits registry stream
    (result.map Item.request, next)
  | .response =>
    let (result, next) := readResponse limits stream
    (result.map Item.response, next)

/-- Reads frames in turn: what each call gave, with the stream after it. -/
def run (limits : Limits) (registry : Registry) :
    List Call → Bytes → List (Except Fault Item × Bytes)
  | [], _ => []
  | call :: calls, stream =>
    let (result, next) := call.run limits registry stream
    (result, next) :: run limits registry calls next

end SftpWire.Source
