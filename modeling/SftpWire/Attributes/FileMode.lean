/-!
File modes: one word that holds the type of a file in four bits and its permissions in the twelve
below them.
-/

namespace SftpWire

/-- The type of a file. -/
inductive FileType where
  | regular
  | directory
  | symlink
  | namedPipe
  | charDevice
  | blockDevice
  | socket
  /-- A type that the mode does not give or that has no meaning. -/
  | unknown
  deriving DecidableEq, Repr

namespace FileType

def all : List FileType :=
  [.regular, .directory, .symlink, .namedPipe, .charDevice, .blockDevice, .socket, .unknown]

def label : FileType → String
  | .regular => "Regular"
  | .directory => "Directory"
  | .symlink => "Symlink"
  | .namedPipe => "NamedPipe"
  | .charDevice => "CharDevice"
  | .blockDevice => "BlockDevice"
  | .socket => "Socket"
  | .unknown => "Unknown"

def bits : FileType → UInt32
  | .regular => 0o100000
  | .directory => 0o040000
  | .symlink => 0o120000
  | .namedPipe => 0o010000
  | .charDevice => 0o020000
  | .blockDevice => 0o060000
  | .socket => 0o140000
  | .unknown => 0

/-- The type of a file whose mode has the given type bits. -/
def ofBits (bits : UInt32) : FileType :=
  if bits = 0o100000 then .regular
  else if bits = 0o040000 then .directory
  else if bits = 0o120000 then .symlink
  else if bits = 0o010000 then .namedPipe
  else if bits = 0o020000 then .charDevice
  else if bits = 0o060000 then .blockDevice
  else if bits = 0o140000 then .socket
  else .unknown

/-- The character of a type in a listing; a regular file and an unknown type share one. -/
def letter : FileType → Char
  | .regular | .unknown => '-'
  | .directory => 'd'
  | .symlink => 'l'
  | .namedPipe => 'p'
  | .charDevice => 'c'
  | .blockDevice => 'b'
  | .socket => 's'

theorem ofBits_bits (type : FileType) : ofBits type.bits = type := by
  cases type <;> rfl

end FileType

/-- A file mode. -/
structure FileMode where
  word : UInt32
  deriving DecidableEq, Repr

namespace FileMode

/-- The bits of the file type. -/
def typeMask : UInt32 := 0o170000

/-- The bits for reading, writing and executing. -/
def accessMask : UInt32 := 0o777

/-- The bits of the permissions, the three special ones included. -/
def permissionMask : UInt32 := 0o7777

/-- The mode of a file type and permissions; other bits of the permissions are left out. -/
def make (type : FileType) (permissions : UInt32) : FileMode :=
  ⟨type.bits ||| (permissions &&& permissionMask)⟩

def type (mode : FileMode) : FileType :=
  .ofBits (mode.word &&& typeMask)

def access (mode : FileMode) : UInt32 :=
  mode.word &&& accessMask

def permissions (mode : FileMode) : UInt32 :=
  mode.word &&& permissionMask

def has (mode : FileMode) (bit : UInt32) : Bool :=
  mode.word &&& bit != 0

/-- A letter where a bit is set. -/
def plain (mode : FileMode) (bit : UInt32) (letter : Char) : Char :=
  if mode.has bit then letter else '-'

/-- The character for executing, which also tells whether a special bit is set: by the given
letter where executing is allowed, by the other where it is not. -/
def special (mode : FileMode) (execute bit : UInt32) (allowed refused : Char) : Char :=
  match mode.has execute, mode.has bit with
  | true, true => allowed
  | false, true => refused
  | true, false => 'x'
  | false, false => '-'

/-- The characters of a mode in a listing. -/
def letters (mode : FileMode) : List Char :=
  [mode.type.letter,
   mode.plain 0o400 'r', mode.plain 0o200 'w', mode.special 0o100 0o4000 's' 'S',
   mode.plain 0o040 'r', mode.plain 0o020 'w', mode.special 0o010 0o2000 's' 'S',
   mode.plain 0o004 'r', mode.plain 0o002 'w', mode.special 0o001 0o1000 't' 'T']

def display (mode : FileMode) : String :=
  String.ofList mode.letters

end FileMode

end SftpWire
