import SftpWire.Extension.Pair

/-!
The registry of extensions: which layout the payload of an extended request has, by the name of the
request. A registration replaces every earlier one of the same name. Names are registered as text,
so a name on the wire that is no valid text is never registered.
-/

namespace SftpWire

/-- Registered names with their layouts, the latest first. -/
structure Registry where
  entries : List (String × PayloadKind)
  deriving DecidableEq, Repr

namespace Registry

/-- What stands under the bytes of a name; the first entry counts. -/
def lookup {κ : Type} (entries : List (String × κ)) (name : Bytes) : Option κ :=
  (entries.find? fun entry => Utf8.ofString entry.1 == name).map Prod.snd

def find? (registry : Registry) (name : Bytes) : Option PayloadKind :=
  lookup registry.entries name

/-- The layout of a name's payloads; without a registration they are kept as bytes. -/
def resolve (registry : Registry) (name : Bytes) : PayloadKind :=
  (registry.find? name).getD .raw

def register (registry : Registry) (name : String) (kind : PayloadKind) : Registry :=
  { entries := (name, kind) :: registry.entries }

/-- Makes registrations in turn. -/
def registerAll (registry : Registry) (registrations : List (String × PayloadKind)) : Registry :=
  registrations.foldl (fun registry entry => registry.register entry.1 entry.2) registry

end Registry

namespace PayloadKind

/-- The name of the requests with payloads of a layout, for the layouts that have one. -/
def requestName? : PayloadKind → Option String
  | .posixRename => some "posix-rename@openssh.com"
  | .hardlink => some "hardlink@openssh.com"
  | .fsync => some "fsync@openssh.com"
  | .statvfs => some "statvfs@openssh.com"
  | .raw | .statvfsReply => none

def version : PayloadKind → String
  | .statvfs => "2"
  | _ => "1"

/-- The layouts of requests that have a name, in the order in which they are announced. -/
def requests : List PayloadKind :=
  [.posixRename, .statvfs, .hardlink, .fsync]

end PayloadKind

/-- What is registered from the start. -/
def Registry.initial : Registry :=
  { entries := PayloadKind.requests.filterMap fun kind =>
      kind.requestName?.map fun name => (name, kind) }

/-- The extensions that a server announces. -/
def Extension.announced : List Extension :=
  PayloadKind.requests.filterMap fun kind =>
    kind.requestName?.map fun name =>
      { name := Utf8.ofString name, data := Utf8.ofString kind.version }

end SftpWire
