import SftpWire.Extension.Payload

/-!
Extensions as the two sides announce them when a session begins: pairs of a name and what there is
to say about it, mostly a version.
-/

namespace SftpWire

/-- An announced extension. -/
structure Extension where
  name : Bytes
  data : Bytes
  deriving DecidableEq, Repr

namespace Extension

def bytes (extension : Extension) : Bytes :=
  Bytes.ofString extension.name ++ Bytes.ofString extension.data

def size (extension : Extension) : Nat :=
  (4 + extension.name.length) + (4 + extension.data.length)

def reader : Reader Extension := do
  let name ← Reader.string
  let data ← Reader.string
  return { name, data }

def shape (hidden : Char → Bool) (extension : Extension) : String :=
  Shape.record "ExtensionPair"
    [("name", Shape.string hidden extension.name), ("data", Shape.string hidden extension.data)]

def find? (name : Bytes) (extensions : List Extension) : Option Extension :=
  extensions.find? fun extension => extension.name == name

end Extension

end SftpWire
