import SftpWire.IoFailure

/-!
Status codes. Thirty-two values of the code word have a name; a code can also be given by its value
alone, and then it may well be the value of a named one. Codes count as equal when their values are
equal, and everything a program can ask of a code but its spelling goes by the value. Main
statements: `value_ofValue`, and `ofValue_value_of_ne_other` for the named codes.
-/

namespace SftpWire

/-- A status code. -/
inductive StatusCode where
  | ok
  | eof
  | noSuchFile
  | permissionDenied
  | failure
  | badMessage
  | noConnection
  | connectionLost
  | opUnsupported
  | invalidHandle
  | noSuchPath
  | fileAlreadyExists
  | writeProtect
  | noMedia
  | noSpaceOnFilesystem
  | quotaExceeded
  | unknownPrincipal
  | lockConflict
  | dirNotEmpty
  | notADirectory
  | invalidFilename
  | linkLoop
  | cannotDelete
  | invalidParameter
  | fileIsADirectory
  | byteRangeLockConflict
  | byteRangeLockRefused
  | deletePending
  | fileCorrupt
  | ownerInvalid
  | groupInvalid
  | noMatchingByteRangeLock
  | other (value : UInt32)
  deriving Repr

namespace StatusCode

/-- The named codes, in the order of their values. -/
def named : List StatusCode :=
  [.ok, .eof, .noSuchFile, .permissionDenied, .failure, .badMessage, .noConnection,
   .connectionLost, .opUnsupported, .invalidHandle, .noSuchPath, .fileAlreadyExists,
   .writeProtect, .noMedia, .noSpaceOnFilesystem, .quotaExceeded, .unknownPrincipal,
   .lockConflict, .dirNotEmpty, .notADirectory, .invalidFilename, .linkLoop, .cannotDelete,
   .invalidParameter, .fileIsADirectory, .byteRangeLockConflict, .byteRangeLockRefused,
   .deletePending, .fileCorrupt, .ownerInvalid, .groupInvalid, .noMatchingByteRangeLock]

/-- The value of a code on the wire. -/
def value : StatusCode → UInt32
  | .ok => 0
  | .eof => 1
  | .noSuchFile => 2
  | .permissionDenied => 3
  | .failure => 4
  | .badMessage => 5
  | .noConnection => 6
  | .connectionLost => 7
  | .opUnsupported => 8
  | .invalidHandle => 9
  | .noSuchPath => 10
  | .fileAlreadyExists => 11
  | .writeProtect => 12
  | .noMedia => 13
  | .noSpaceOnFilesystem => 14
  | .quotaExceeded => 15
  | .unknownPrincipal => 16
  | .lockConflict => 17
  | .dirNotEmpty => 18
  | .notADirectory => 19
  | .invalidFilename => 20
  | .linkLoop => 21
  | .cannotDelete => 22
  | .invalidParameter => 23
  | .fileIsADirectory => 24
  | .byteRangeLockConflict => 25
  | .byteRangeLockRefused => 26
  | .deletePending => 27
  | .fileCorrupt => 28
  | .ownerInvalid => 29
  | .groupInvalid => 30
  | .noMatchingByteRangeLock => 31
  | .other v => v

/-- The code of a value: the named one if there is one. -/
def ofValue (v : UInt32) : StatusCode :=
  (named.find? fun code => code.value == v).getD (.other v)

/-- Codes are equal when their values are. -/
instance : BEq StatusCode :=
  ⟨fun a b => a.value == b.value⟩

/-- The named code of the same value, if there is one. -/
def normalize (code : StatusCode) : StatusCode :=
  ofValue code.value

def title : StatusCode → String
  | .ok => "Ok"
  | .eof => "Eof"
  | .noSuchFile => "NoSuchFile"
  | .permissionDenied => "PermissionDenied"
  | .failure => "Failure"
  | .badMessage => "BadMessage"
  | .noConnection => "NoConnection"
  | .connectionLost => "ConnectionLost"
  | .opUnsupported => "OpUnsupported"
  | .invalidHandle => "InvalidHandle"
  | .noSuchPath => "NoSuchPath"
  | .fileAlreadyExists => "FileAlreadyExists"
  | .writeProtect => "WriteProtect"
  | .noMedia => "NoMedia"
  | .noSpaceOnFilesystem => "NoSpaceOnFilesystem"
  | .quotaExceeded => "QuotaExceeded"
  | .unknownPrincipal => "UnknownPrincipal"
  | .lockConflict => "LockConflict"
  | .dirNotEmpty => "DirNotEmpty"
  | .notADirectory => "NotADirectory"
  | .invalidFilename => "InvalidFilename"
  | .linkLoop => "LinkLoop"
  | .cannotDelete => "CannotDelete"
  | .invalidParameter => "InvalidParameter"
  | .fileIsADirectory => "FileIsADirectory"
  | .byteRangeLockConflict => "ByteRangeLockConflict"
  | .byteRangeLockRefused => "ByteRangeLockRefused"
  | .deletePending => "DeletePending"
  | .fileCorrupt => "FileCorrupt"
  | .ownerInvalid => "OwnerInvalid"
  | .groupInvalid => "GroupInvalid"
  | .noMatchingByteRangeLock => "NoMatchingByteRangeLock"
  | .other v => s!"Other({v.toNat})"

/-- The name of a code as the protocol spells it, without what all names begin with. Codes with no
name share one. -/
def word : StatusCode → String
  | .ok => "OK"
  | .eof => "EOF"
  | .noSuchFile => "NO_SUCH_FILE"
  | .permissionDenied => "PERMISSION_DENIED"
  | .failure => "FAILURE"
  | .badMessage => "BAD_MESSAGE"
  | .noConnection => "NO_CONNECTION"
  | .connectionLost => "CONNECTION_LOST"
  | .opUnsupported => "OP_UNSUPPORTED"
  | .invalidHandle => "INVALID_HANDLE"
  | .noSuchPath => "NO_SUCH_PATH"
  | .fileAlreadyExists => "FILE_ALREADY_EXISTS"
  | .writeProtect => "WRITE_PROTECT"
  | .noMedia => "NO_MEDIA"
  | .noSpaceOnFilesystem => "NO_SPACE_ON_FILESYSTEM"
  | .quotaExceeded => "QUOTA_EXCEEDED"
  | .unknownPrincipal => "UNKNOWN_PRINCIPAL"
  | .lockConflict => "LOCK_CONFLICT"
  | .dirNotEmpty => "DIR_NOT_EMPTY"
  | .notADirectory => "NOT_A_DIRECTORY"
  | .invalidFilename => "INVALID_FILENAME"
  | .linkLoop => "LINK_LOOP"
  | .cannotDelete => "CANNOT_DELETE"
  | .invalidParameter => "INVALID_PARAMETER"
  | .fileIsADirectory => "FILE_IS_A_DIRECTORY"
  | .byteRangeLockConflict => "BYTE_RANGE_LOCK_CONFLICT"
  | .byteRangeLockRefused => "BYTE_RANGE_LOCK_REFUSED"
  | .deletePending => "DELETE_PENDING"
  | .fileCorrupt => "FILE_CORRUPT"
  | .ownerInvalid => "OWNER_INVALID"
  | .groupInvalid => "GROUP_INVALID"
  | .noMatchingByteRangeLock => "NO_MATCHING_BYTE_RANGE_LOCK"
  | .other _ => "UNKNOWN"

def label (code : StatusCode) : String :=
  "SSH_FX_" ++ code.normalize.word

/-- The name of a code, with the value where the name leaves it open. -/
def display (code : StatusCode) : String :=
  match code.normalize with
  | .other v => s!"SSH_FX_UNKNOWN({v.toNat})"
  | known => "SSH_FX_" ++ known.word

/-- The kind of system failure that a code stands for, if it stands for one. -/
def ioKind? (code : StatusCode) : Option IoKind :=
  match code.normalize with
  | .eof => some .unexpectedEof
  | .noSuchFile => some .notFound
  | .permissionDenied => some .permissionDenied
  | _ => none

def isKind (code : StatusCode) (kind : IoKind) : Bool :=
  code.ioKind? == some kind

/-- The code nearest to a kind of system failure. -/
def ofIoKind : IoKind → StatusCode
  | .notFound => .noSuchFile
  | .permissionDenied => .permissionDenied
  | .unexpectedEof => .eof
  | .unsupported => .opUnsupported
  | .notConnected => .noConnection
  | .connectionAborted | .connectionReset | .brokenPipe => .connectionLost
  | _ => .failure

theorem beq_iff {a b : StatusCode} : (a == b) = true ↔ a.value = b.value := by
  show (a.value == b.value) = true ↔ a.value = b.value
  exact beq_iff_eq

theorem value_ofValue (v : UInt32) : (ofValue v).value = v := by
  unfold ofValue
  cases found : named.find? fun code => code.value == v with
  | none => rfl
  | some code => simpa using List.find?_some found

theorem ofValue_value_of_ne_other {code : StatusCode} (isNamed : ∀ v, code ≠ .other v) :
    ofValue code.value = code := by
  cases code with
  | other v => exact absurd rfl (isNamed v)
  | _ => rfl

end StatusCode

end SftpWire
