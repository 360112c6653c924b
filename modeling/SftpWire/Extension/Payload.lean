import SftpWire.Extension.Volume
import SftpWire.Text.Shape

/-!
Payloads of extended packets. The layout of a payload is not written with it: it follows from the
name of the request, and for names that mean nothing here the payload is kept as bytes.
-/

namespace SftpWire

/-- The layouts of a payload. -/
inductive PayloadKind where
  | raw
  | posixRename
  | hardlink
  /-- The wish that a file be stored for good. -/
  | fsync
  /-- The question for the figures of a file system. -/
  | statvfs
  | statvfsReply
  deriving DecidableEq, Repr

/-- A payload. -/
inductive Payload where
  | raw (data : Bytes)
  | posixRename (oldPath newPath : Bytes)
  | hardlink (oldPath newPath : Bytes)
  | fsync (handle : Bytes)
  | statvfs (path : Bytes)
  | statvfsReply (volume : Volume)
  deriving DecidableEq, Repr

namespace Payload

def kind : Payload → PayloadKind
  | .raw _ => .raw
  | .posixRename _ _ => .posixRename
  | .hardlink _ _ => .hardlink
  | .fsync _ => .fsync
  | .statvfs _ => .statvfs
  | .statvfsReply _ => .statvfsReply

def bytes : Payload → Bytes
  | .raw data => data
  | .posixRename oldPath newPath => Bytes.ofString oldPath ++ Bytes.ofString newPath
  | .hardlink oldPath newPath => Bytes.ofString oldPath ++ Bytes.ofString newPath
  | .fsync handle => Bytes.ofString handle
  | .statvfs path => Bytes.ofString path
  | .statvfsReply volume => volume.bytes

def size : Payload → Nat
  | .raw data => data.length
  | .posixRename oldPath newPath => (4 + oldPath.length) + (4 + newPath.length)
  | .hardlink oldPath newPath => (4 + oldPath.length) + (4 + newPath.length)
  | .fsync handle => 4 + handle.length
  | .statvfs path => 4 + path.length
  | .statvfsReply _ => 11 * 8

def shape (hidden : Char → Bool) : Payload → String
  | .raw data => Shape.tagged "RawExtendedData" (Shape.bytes data)
  | .posixRename oldPath newPath =>
    Shape.record "PosixRenameExtendedPacket"
      [("old_path", Shape.string hidden oldPath), ("new_path", Shape.string hidden newPath)]
  | .hardlink oldPath newPath =>
    Shape.record "HardlinkExtendedPacket"
      [("old_path", Shape.string hidden oldPath), ("new_path", Shape.string hidden newPath)]
  | .fsync handle => Shape.record "FsyncExtendedPacket" [("handle", Shape.bytes handle)]
  | .statvfs path => Shape.record "StatVfsExtendedPacket" [("path", Shape.string hidden path)]
  | .statvfsReply volume =>
    Shape.record "StatVfsExtendedReplyPacket"
      (volume.fields.map fun field => (field.1, Shape.number field.2.toNat))

/-- Whether two payloads are written alike. -/
def sameBytes (a b : Payload) : Bool :=
  a.bytes == b.bytes

end Payload

namespace PayloadKind

def blank : PayloadKind → Payload
  | .raw => .raw []
  | .posixRename => .posixRename [] []
  | .hardlink => .hardlink [] []
  | .fsync => .fsync []
  | .statvfs => .statvfs []
  | .statvfsReply => .statvfsReply {}

def reader : PayloadKind → Reader Payload
  | .raw => Payload.raw <$> Reader.remaining
  | .posixRename => do
    let oldPath ← Reader.string
    let newPath ← Reader.string
    return .posixRename oldPath newPath
  | .hardlink => do
    let oldPath ← Reader.string
    let newPath ← Reader.string
    return .hardlink oldPath newPath
  | .fsync => Payload.fsync <$> Reader.string
  | .statvfs => Payload.statvfs <$> Reader.string
  | .statvfsReply => Payload.statvfsReply <$> Volume.reader

end PayloadKind

end SftpWire
