import SftpWire.Attributes.Codec
import SftpWire.Extension.Registry
import SftpWire.Packet.Message

/-!
Requests. Many kinds of request differ in nothing but their meaning: three carry a handle, seven a
path, two a path with attributes. A request is a layout with, where there is a choice, the operation
that it asks for.
-/

namespace SftpWire

/-- What can be asked for with a handle alone. -/
inductive HandleOperation where
  | close
  | fstat
  | readdir
  deriving DecidableEq, Repr

/-- What can be asked for with a path alone. -/
inductive PathOperation where
  | lstat
  | opendir
  | remove
  | rmdir
  | realpath
  | stat
  | readlink
  deriving DecidableEq, Repr

/-- What can be asked for with a path and attributes. -/
inductive SetOperation where
  | setstat
  | mkdir
  deriving DecidableEq, Repr

/-- A request. -/
inductive Request where
  | init (version : UInt32) (extensions : List Extension)
  | openFile (filename : Bytes) (access : UInt32) (attrs : Attributes)
  | onHandle (operation : HandleOperation) (handle : Bytes)
  /-- Asks for data from an offset on, at most so many bytes. -/
  | read (handle : Bytes) (offset : UInt64) (length : UInt32)
  /-- Asks that data be written at an offset. -/
  | write (handle : Bytes) (offset : UInt64) (data : Bytes)
  | onPath (operation : PathOperation) (path : Bytes)
  /-- Asks for something that needs a path and attributes. -/
  | onPathWith (operation : SetOperation) (path : Bytes) (attrs : Attributes)
  /-- Asks that the attributes of an open file be changed. -/
  | fsetstat (handle : Bytes) (attrs : Attributes)
  | rename (oldPath newPath : Bytes)
  /-- Asks for a link with the given target. -/
  | symlink (link target : Bytes)
  | extended (name : Bytes) (payload : Payload)
  deriving DecidableEq

/-- The version of the protocol that is spoken here. -/
def protocolVersion : UInt32 := 3

/-- The ways in which a file can be opened, with their names. -/
def openFlags : List (String × UInt32) :=
  [("READ", 0x01), ("WRITE", 0x02), ("APPEND", 0x04), ("CREATE", 0x08), ("TRUNCATE", 0x10),
   ("EXCLUSIVE", 0x20)]

/-- Whether every one of the given flags is up. -/
def hasFlags (access flags : UInt32) : Bool :=
  access &&& flags == flags

def HandleOperation.kind : HandleOperation → Kind
  | .close => .close
  | .fstat => .fstat
  | .readdir => .readdir

def PathOperation.kind : PathOperation → Kind
  | .lstat => .lstat
  | .opendir => .opendir
  | .remove => .remove
  | .rmdir => .rmdir
  | .realpath => .realpath
  | .stat => .stat
  | .readlink => .readlink

def SetOperation.kind : SetOperation → Kind
  | .setstat => .setstat
  | .mkdir => .mkdir

namespace Request

/-- Requests are equal when their fields are; payloads count as equal when they are written
alike. -/
instance : BEq Request where
  beq
    | .extended name payload, .extended name' payload' =>
      name == name' && payload.sameBytes payload'
    | a, b => decide (a = b)

def kind : Request → Kind
  | .init .. => .init
  | .openFile .. => .openFile
  | .onHandle operation _ => operation.kind
  | .read .. => .read
  | .write .. => .write
  | .onPath operation _ => operation.kind
  | .onPathWith operation .. => operation.kind
  | .fsetstat .. => .fsetstat
  | .rename .. => .rename
  | .symlink .. => .symlink
  | .extended .. => .extended

/-- The body of a request as far as it is written behind the header; the data of `write` is not. -/
def fields : Request → Bytes
  | .init version extensions => Bytes.ofWord32 version ++ extensions.flatMap Extension.bytes
  | .openFile filename access attrs =>
    Bytes.ofString filename ++ Bytes.ofWord32 access ++ attrs.bytes
  | .onHandle _ handle => Bytes.ofString handle
  | .read handle offset length =>
    Bytes.ofString handle ++ Bytes.ofWord64 offset ++ Bytes.ofWord32 length
  | .write handle offset data =>
    Bytes.ofString handle ++ Bytes.ofWord64 offset ++
      Bytes.ofWord32 (Bytes.lengthWord data.length)
  | .onPath _ path => Bytes.ofString path
  | .onPathWith _ path attrs => Bytes.ofString path ++ attrs.bytes
  | .fsetstat handle attrs => Bytes.ofString handle ++ attrs.bytes
  | .rename oldPath newPath => Bytes.ofString oldPath ++ Bytes.ofString newPath
  | .symlink link target => Bytes.ofString target ++ Bytes.ofString link
  | .extended name payload => Bytes.ofString name ++ payload.bytes

/-- The data that is sent on its own: that of `write`. -/
def bulk : Request → Bytes
  | .write _ _ data => data.take (Bytes.lengthWord data.length).toNat
  | _ => []

def size : Request → Nat
  | .init _ extensions => 4 + Bytes.rowSize Extension.size extensions
  | .openFile filename _ attrs => 4 + filename.length + 4 + attrs.wireSize
  | .onHandle _ handle => 4 + handle.length
  | .read handle _ _ => 4 + handle.length + 8 + 4
  | .write handle _ _ => 4 + handle.length + 8 + 4
  | .onPath _ path => 4 + path.length
  | .onPathWith _ path attrs => 4 + path.length + attrs.wireSize
  | .fsetstat handle attrs => 4 + handle.length + attrs.wireSize
  | .rename oldPath newPath => 4 + oldPath.length + 4 + newPath.length
  | .symlink link target => 4 + target.length + 4 + link.length
  | .extended name payload => 4 + name.length + payload.size

/-- A request of the given kind with nothing in it, if requests have that kind. -/
def blank? : Kind → Option Request
  | .init => some (.init protocolVersion [])
  | .openFile => some (.openFile [] 0 .empty)
  | .close => some (.onHandle .close [])
  | .read => some (.read [] 0 0)
  | .write => some (.write [] 0 [])
  | .lstat => some (.onPath .lstat [])
  | .fstat => some (.onHandle .fstat [])
  | .setstat => some (.onPathWith .setstat [] .empty)
  | .fsetstat => some (.fsetstat [] .empty)
  | .opendir => some (.onPath .opendir [])
  | .readdir => some (.onHandle .readdir [])
  | .remove => some (.onPath .remove [])
  | .mkdir => some (.onPathWith .mkdir [] .empty)
  | .rmdir => some (.onPath .rmdir [])
  | .realpath => some (.onPath .realpath [])
  | .stat => some (.onPath .stat [])
  | .rename => some (.rename [] [])
  | .readlink => some (.onPath .readlink [])
  | .symlink => some (.symlink [] [])
  | .extended => some (.extended [] (.raw []))
  | _ => none

/-- Reads the body of a request that opens a session: a version, then extensions to the end. -/
def initReader : Reader Request := do
  let version ← Reader.word32
  let extensions ← Extension.reader.toEnd
  return .init version extensions

def openReader : Reader Request := do
  let filename ← Reader.string
  let access ← Reader.word32
  let attrs ← Attributes.reader
  return .openFile filename access attrs

def onHandleReader (operation : HandleOperation) : Reader Request :=
  Request.onHandle operation <$> Reader.string

def readReader : Reader Request := do
  let handle ← Reader.string
  let offset ← Reader.word64
  let length ← Reader.word32
  return .read handle offset length

def writeReader : Reader Request := do
  let handle ← Reader.string
  let offset ← Reader.word64
  let data ← Reader.string
  return .write handle offset data

def onPathReader (operation : PathOperation) : Reader Request :=
  Request.onPath operation <$> Reader.string

/-- Reads the body of a request that carries a path and attributes. -/
def onPathWithReader (operation : SetOperation) : Reader Request := do
  let path ← Reader.string
  let attrs ← Attributes.reader
  return .onPathWith operation path attrs

/-- Reads the body of a request that carries a handle and attributes. -/
def fsetstatReader : Reader Request := do
  let handle ← Reader.string
  let attrs ← Attributes.reader
  return .fsetstat handle attrs

def renameReader : Reader Request := do
  let oldPath ← Reader.string
  let newPath ← Reader.string
  return .rename oldPath newPath

/-- Reads the body of a request for a link. The target comes first. -/
def symlinkReader : Reader Request := do
  let target ← Reader.string
  let link ← Reader.string
  return .symlink link target

/-- Reads the body of an extended request. The name says how the payload is to be read. -/
def extendedReader (registry : Registry) : Reader Request := do
  let name ← Reader.string
  let payload ← (registry.resolve name).reader
  return .extended name payload

/-- Reads the body of a request of the given kind, if requests have that kind. -/
def reader? (registry : Registry) : Kind → Option (Reader Request)
  | .init => some initReader
  | .openFile => some openReader
  | .close => some (onHandleReader .close)
  | .read => some readReader
  | .write => some writeReader
  | .lstat => some (onPathReader .lstat)
  | .fstat => some (onHandleReader .fstat)
  | .setstat => some (onPathWithReader .setstat)
  | .fsetstat => some fsetstatReader
  | .opendir => some (onPathReader .opendir)
  | .readdir => some (onHandleReader .readdir)
  | .remove => some (onPathReader .remove)
  | .mkdir => some (onPathWithReader .mkdir)
  | .rmdir => some (onPathReader .rmdir)
  | .realpath => some (onPathReader .realpath)
  | .stat => some (onPathReader .stat)
  | .rename => some renameReader
  | .readlink => some (onPathReader .readlink)
  | .symlink => some symlinkReader
  | .extended => some (extendedReader registry)
  | _ => none

def blank (code : TypeCode) : Except Fault Request :=
  match (Kind.ofCode? code).bind blank? with
  | some request => .ok request
  | none => .error (.unexpectedRequest code)

/-- A request ready to be sent. -/
def encode (id : UInt32) (request : Request) : Encoded :=
  Frame.assemble request.kind.code id request.fields request.bulk

/-- The request of a frame. -/
def ofFrame (registry : Registry) (frame : Frame) : Except Fault (Message Request) :=
  Message.ofFrame (reader? registry) Fault.unexpectedRequest frame

/-- The request that bytes are. -/
def decode (registry : Registry) (bytes : Bytes) : Except Fault (Message Request) := do
  let frame ← Frame.decode bytes
  ofFrame registry frame

def shape (hidden : Char → Bool) (request : Request) : String :=
  request.kind.shape <|
    match request with
    | .init version extensions =>
      [("version", Shape.number version.toNat),
       ("extensions", Shape.list (extensions.map (Extension.shape hidden)))]
    | .openFile filename access attrs =>
      [("filename", Shape.string hidden filename), ("pflags", Shape.number access.toNat),
       ("attrs", attrs.shape hidden)]
    | .onHandle _ handle => [("handle", Shape.bytes handle)]
    | .read handle offset length =>
      [("handle", Shape.bytes handle), ("offset", Shape.number offset.toNat),
       ("length", Shape.number length.toNat)]
    | .write handle offset data =>
      [("handle", Shape.bytes handle), ("offset", Shape.number offset.toNat),
       ("data", Shape.bytes data)]
    | .onPath _ path => [("path", Shape.string hidden path)]
    | .onPathWith _ path attrs =>
      [("path", Shape.string hidden path), ("attrs", attrs.shape hidden)]
    | .fsetstat handle attrs => [("handle", Shape.bytes handle), ("attrs", attrs.shape hidden)]
    | .rename oldPath newPath =>
      [("old_path", Shape.string hidden oldPath), ("new_path", Shape.string hidden newPath)]
    | .symlink link target =>
      [("link_path", Shape.string hidden link), ("target_path", Shape.string hidden target)]
    | .extended name payload =>
      [("extended_request", Shape.string hidden name), ("data", payload.shape hidden)]

end Request

end SftpWire
