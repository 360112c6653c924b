/-!
Packet kinds. The byte after a frame's length says what the packet is; thirty of its values have a
meaning. Main statements: `ofCode?_code` and `code_of_ofCode?`, by which a kind and its code
determine each other.
-/

namespace SftpWire

/-- Who sends a packet. -/
inductive Side where
  | client
  | server
  deriving DecidableEq, Repr

/-- The kinds of packet that have a code. -/
inductive Kind where
  | init
  | version
  | openFile
  | close
  | read
  | write
  | lstat
  | fstat
  | setstat
  | fsetstat
  | opendir
  | readdir
  | remove
  | mkdir
  | rmdir
  | realpath
  | stat
  | rename
  | readlink
  | symlink
  | link
  | block
  | unblock
  | status
  | handle
  | data
  | name
  | attrs
  | extended
  | extendedReply
  deriving DecidableEq, Repr

namespace Kind

def all : List Kind :=
  [.init, .version, .openFile, .close, .read, .write, .lstat, .fstat, .setstat, .fsetstat,
   .opendir, .readdir, .remove, .mkdir, .rmdir, .realpath, .stat, .rename, .readlink,
   .symlink, .link, .block, .unblock, .status, .handle, .data, .name, .attrs, .extended,
   .extendedReply]

def code : Kind → UInt8
  | .init => 1
  | .version => 2
  | .openFile => 3
  | .close => 4
  | .read => 5
  | .write => 6
  | .lstat => 7
  | .fstat => 8
  | .setstat => 9
  | .fsetstat => 10
  | .opendir => 11
  | .readdir => 12
  | .remove => 13
  | .mkdir => 14
  | .rmdir => 15
  | .realpath => 16
  | .stat => 17
  | .rename => 18
  | .readlink => 19
  | .symlink => 20
  | .link => 21
  | .block => 22
  | .unblock => 23
  | .status => 101
  | .handle => 102
  | .data => 103
  | .name => 104
  | .attrs => 105
  | .extended => 200
  | .extendedReply => 201

/-- The kind that a byte stands for, if it stands for one. -/
def ofCode? (code : UInt8) : Option Kind :=
  all.find? fun kind => kind.code == code

def word : Kind → String
  | .init => "INIT"
  | .version => "VERSION"
  | .openFile => "OPEN"
  | .close => "CLOSE"
  | .read => "READ"
  | .write => "WRITE"
  | .lstat => "LSTAT"
  | .fstat => "FSTAT"
  | .setstat => "SETSTAT"
  | .fsetstat => "FSETSTAT"
  | .opendir => "OPENDIR"
  | .readdir => "READDIR"
  | .remove => "REMOVE"
  | .mkdir => "MKDIR"
  | .rmdir => "RMDIR"
  | .realpath => "REALPATH"
  | .stat => "STAT"
  | .rename => "RENAME"
  | .readlink => "READLINK"
  | .symlink => "SYMLINK"
  | .link => "LINK"
  | .block => "BLOCK"
  | .unblock => "UNBLOCK"
  | .status => "STATUS"
  | .handle => "HANDLE"
  | .data => "DATA"
  | .name => "NAME"
  | .attrs => "ATTRS"
  | .extended => "EXTENDED"
  | .extendedReply => "EXTENDED_REPLY"

def label (kind : Kind) : String :=
  "SSH_FXP_" ++ kind.word

/-- The name of a kind in one word, as it stands before the fields of a packet. -/
def title : Kind → String
  | .init => "Init"
  | .version => "Version"
  | .openFile => "Open"
  | .close => "Close"
  | .read => "Read"
  | .write => "Write"
  | .lstat => "LStat"
  | .fstat => "FStat"
  | .setstat => "SetStat"
  | .fsetstat => "FSetStat"
  | .opendir => "OpenDir"
  | .readdir => "ReadDir"
  | .remove => "Remove"
  | .mkdir => "Mkdir"
  | .rmdir => "Rmdir"
  | .realpath => "RealPath"
  | .stat => "Stat"
  | .rename => "Rename"
  | .readlink => "ReadLink"
  | .symlink => "Symlink"
  | .link => "Link"
  | .block => "Block"
  | .unblock => "Unblock"
  | .status => "Status"
  | .handle => "Handle"
  | .data => "Data"
  | .name => "Name"
  | .attrs => "Attrs"
  | .extended => "Extended"
  | .extendedReply => "ExtendedReply"

/-- Who sends packets of a kind. -/
def sender : Kind → Side
  | .version | .status | .handle | .data | .name | .attrs | .extendedReply => .server
  | _ => .client

theorem ofCode?_code (kind : Kind) : ofCode? kind.code = some kind := by
  cases kind <;> rfl

theorem code_of_ofCode? {code : UInt8} {kind : Kind} (known : ofCode? code = some kind) :
    kind.code = code := by
  simpa using List.find?_some known

end Kind

/-- The code of a packet, whether it has a meaning or not. -/
abbrev TypeCode := UInt8

namespace TypeCode

/-- Whether packets with this code carry a request id. Those that open a session, of kinds `init`
and `version`, do not. -/
def carriesId (code : TypeCode) : Bool :=
  code != Kind.code .init && code != Kind.code .version

def label (code : TypeCode) : String :=
  match Kind.ofCode? code with
  | some kind => kind.label
  | none => "SSH_FXP_UNKNOWN"

/-- The name of a code, with the number where the name leaves it open. -/
def display (code : TypeCode) : String :=
  match Kind.ofCode? code with
  | some kind => kind.label
  | none => s!"SSH_FXP_UNKNOWN({code.toNat})"

/-- Whether a code has a meaning and the given side sends it. -/
def sentBy (side : Side) (code : TypeCode) : Bool :=
  match Kind.ofCode? code with
  | some kind => kind.sender == side
  | none => false

end TypeCode

end SftpWire
