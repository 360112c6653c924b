import SftpWire.Attributes.Codec
import SftpWire.Extension.Registry
import SftpWire.Packet.Message
import SftpWire.Packet.Request

/-!
Responses. The name of the extension is not in the reply to an extended request, so the payload of
a reply is kept as bytes until somebody who knows the request says how to read it.
-/

namespace SftpWire

/-- A file in the listing of a directory. -/
structure NameEntry where
  filename : Bytes
  /-- The line of the file in a long listing. -/
  longname : Bytes
  attrs : Attributes
  deriving DecidableEq

namespace NameEntry

def bytes (entry : NameEntry) : Bytes :=
  Bytes.ofString entry.filename ++ Bytes.ofString entry.longname ++ entry.attrs.bytes

def size (entry : NameEntry) : Nat :=
  4 + entry.filename.length + 4 + entry.longname.length + entry.attrs.wireSize

def reader : Reader NameEntry := do
  let filename ← Reader.string
  let longname ← Reader.string
  let attrs ← Attributes.reader
  return { filename, longname, attrs }

def shape (hidden : Char → Bool) (entry : NameEntry) : String :=
  Shape.record "NameEntry"
    [("filename", Shape.string hidden entry.filename),
     ("longname", Shape.string hidden entry.longname), ("attrs", entry.attrs.shape hidden)]

end NameEntry

/-- A response. -/
inductive Response where
  | version (version : UInt32) (extensions : List Extension)
  | status (status : Status)
  | handle (handle : Bytes)
  | data (data : Bytes)
  | name (entries : List NameEntry)
  | attrs (attrs : Attributes)
  | extendedReply (payload : Payload)

namespace Response

/-- Responses are equal when their fields are; status codes count as equal when their values are,
and payloads when they are written alike. -/
instance : BEq Response where
  beq
    | .version v es, .version v' es' => v == v' && es == es'
    | .status s, .status s' => s == s'
    | .handle h, .handle h' => h == h'
    | .data d, .data d' => d == d'
    | .name es, .name es' => es == es'
    | .attrs a, .attrs a' => a == a'
    | .extendedReply p, .extendedReply p' => p.sameBytes p'
    | _, _ => false

def kind : Response → Kind
  | .version .. => .version
  | .status _ => .status
  | .handle _ => .handle
  | .data _ => .data
  | .name _ => .name
  | .attrs _ => .attrs
  | .extendedReply _ => .extendedReply

/-- The body of a response as far as it is written behind the header; that of `data` is not. -/
def fields : Response → Bytes
  | .version v extensions => Bytes.ofWord32 v ++ extensions.flatMap Extension.bytes
  | .status report => report.bytes
  | .handle h => Bytes.ofString h
  | .data d => Bytes.ofWord32 (Bytes.lengthWord d.length)
  | .name entries =>
    Bytes.ofWord32 (Bytes.lengthWord entries.length) ++ entries.flatMap NameEntry.bytes
  | .attrs a => a.bytes
  | .extendedReply payload => payload.bytes

/-- The data that is sent on its own: that of `data`. -/
def bulk : Response → Bytes
  | .data d => d.take (Bytes.lengthWord d.length).toNat
  | _ => []

def size : Response → Nat
  | .version _ extensions => 4 + Bytes.rowSize Extension.size extensions
  | .status report => report.size
  | .handle h => 4 + h.length
  | .data _ => 4
  | .name entries => 4 + Bytes.rowSize NameEntry.size entries
  | .attrs a => a.wireSize
  | .extendedReply payload => payload.size

/-- A response of the given kind with nothing in it, if responses have that kind. -/
def blank? : Kind → Option Response
  | .version => some (.version protocolVersion [])
  | .status => some (.status .blank)
  | .handle => some (.handle [])
  | .data => some (.data [])
  | .name => some (.name [])
  | .attrs => some (.attrs .empty)
  | .extendedReply => some (.extendedReply (.raw []))
  | _ => none

/-- Reads the body of a response that opens a session: a version, then extensions to the end. -/
def versionReader : Reader Response := do
  let v ← Reader.word32
  let extensions ← Extension.reader.toEnd
  return .version v extensions

/-- Reads the body of a response that gives files. They are counted. -/
def nameReader : Reader Response := do
  let count ← Reader.word32
  let entries ← NameEntry.reader.replicate count.toNat
  return .name entries

/-- Reads the body of a response of the given kind, if responses have that kind. -/
def reader? : Kind → Option (Reader Response)
  | .version => some versionReader
  | .status => some (Response.status <$> Status.reader)
  | .handle => some (Response.handle <$> Reader.string)
  | .data => some (Response.data <$> Reader.string)
  | .name => some nameReader
  | .attrs => some (Response.attrs <$> Attributes.reader)
  | .extendedReply => some (Response.extendedReply <$> PayloadKind.reader .raw)
  | _ => none

def blank (code : TypeCode) : Except Fault Response :=
  match (Kind.ofCode? code).bind blank? with
  | some response => .ok response
  | none => .error (.unexpectedResponse code)

/-- A response ready to be sent. -/
def encode (id : UInt32) (response : Response) : Encoded :=
  Frame.assemble response.kind.code id response.fields response.bulk

/-- The response of a frame. -/
def ofFrame (frame : Frame) : Except Fault (Message Response) :=
  Message.ofFrame reader? Fault.unexpectedResponse frame

/-- The response that bytes are. -/
def decode (bytes : Bytes) : Except Fault (Message Response) := do
  let frame ← Frame.decode bytes
  ofFrame frame

def shape (hidden : Char → Bool) (response : Response) : String :=
  match response with
  | .version v extensions =>
    Kind.version.shape
      [("version", Shape.number v.toNat),
       ("extensions", Shape.list (extensions.map (Extension.shape hidden)))]
  | .status report => Shape.tagged Kind.status.title (report.shape hidden)
  | .handle h => Kind.handle.shape [("handle", Shape.bytes h)]
  | .data d => Kind.data.shape [("data", Shape.bytes d)]
  | .name entries =>
    Kind.name.shape [("entries", Shape.list (entries.map (NameEntry.shape hidden)))]
  | .attrs a => Kind.attrs.shape [("attrs", a.shape hidden)]
  | .extendedReply payload => Kind.extendedReply.shape [("data", payload.shape hidden)]

end Response

/-- A response that reports a failure is that failure, and any other response is itself. -/
def Message.check (message : Message Response) : Except Status (Message Response) :=
  match message.packet with
  | .status report => if report.isOk then .ok message else .error report
  | _ => .ok message

/-- Reads a payload again, in the layout of the given kind, from the bytes that it is written as.
Bytes that are left over are passed over. -/
def Payload.readAs (kind : PayloadKind) (payload : Payload) : Except Fault Payload :=
  (kind.reader.run payload.bytes).toExcept

end SftpWire
