import SftpWire.Attributes.Basic
import SftpWire.Text.Shape
import SftpWire.Wire.Primitive

/-!
Attributes on the wire: the flag word, then the attributes that it announces in the order of their
bits. The attributes of other kinds are counted, and each is a pair of strings.
-/

namespace SftpWire

namespace ExtendedAttribute

def bytes (attr : ExtendedAttribute) : Bytes :=
  Bytes.ofString attr.type ++ Bytes.ofString attr.data

def wireSize (attr : ExtendedAttribute) : Nat :=
  (4 + attr.type.length) + (4 + attr.data.length)

def reader : Reader ExtendedAttribute := do
  let type ← Reader.string
  let data ← Reader.string
  return { type, data }

def shape (hidden : Char → Bool) (attr : ExtendedAttribute) : String :=
  Shape.record "ExtendedAttribute"
    [("ext_type", Shape.string hidden attr.type), ("data", Shape.bytes attr.data)]

end ExtendedAttribute

namespace Attributes

def pairBytes (pair : UInt32 × UInt32) : Bytes :=
  Bytes.ofWord32 pair.1 ++ Bytes.ofWord32 pair.2

def pairReader : Reader (UInt32 × UInt32) := do
  let first ← Reader.word32
  let second ← Reader.word32
  return (first, second)

def extendedBytes (extended : List ExtendedAttribute) : Bytes :=
  Bytes.ofWord32 (Bytes.lengthWord extended.length) ++ extended.flatMap ExtendedAttribute.bytes

def extendedReader : Reader (List ExtendedAttribute) := do
  let count ← Reader.word32
  ExtendedAttribute.reader.replicate count.toNat

/-- What an attribute writes if it is there. -/
def present {α : Type} (write : α → Bytes) : Option α → Bytes
  | some value => write value
  | none => []

/-- The attributes behind the flag word. -/
def fieldBytes (attrs : Attributes) : Bytes :=
  present Bytes.ofWord64 attrs.size ++ present pairBytes attrs.owner ++
    present (fun mode => Bytes.ofWord32 mode.word) attrs.permissions ++
    present pairBytes attrs.times ++ present extendedBytes attrs.extended

def bytes (attrs : Attributes) : Bytes :=
  Bytes.ofWord32 attrs.flags ++ attrs.fieldBytes

/-- The number of bytes of an attribute if it is there. -/
def sizeIf {α : Type} (size : α → Nat) : Option α → Nat
  | some value => size value
  | none => 0

def wireSize (attrs : Attributes) : Nat :=
  4 + sizeIf (fun _ => 8) attrs.size + sizeIf (fun _ => 8) attrs.owner +
    sizeIf (fun _ => 4) attrs.permissions + sizeIf (fun _ => 8) attrs.times +
    sizeIf (fun extended => 4 + Bytes.rowSize ExtendedAttribute.wireSize extended) attrs.extended

/-- Reads an attribute if its flag is in the flag word. -/
def readerIf {α : Type} (flags flag : UInt32) (reader : Reader α) : Reader (Option α) :=
  if flags &&& flag = 0 then pure none else some <$> reader

theorem unknown_known (flags : UInt32) :
    (flags &&& ~~~AttributeFlag.known) &&& AttributeFlag.known = 0 := by
  have apart : ~~~AttributeFlag.known &&& AttributeFlag.known = 0 := by decide
  rw [UInt32.and_assoc, apart, UInt32.and_zero]

/-- Reads the attributes that a flag word announces. -/
def readerFor (flags : UInt32) : Reader Attributes := do
  let size ← readerIf flags AttributeFlag.size Reader.word64
  let owner ← readerIf flags AttributeFlag.owner pairReader
  let permissions ← readerIf flags AttributeFlag.permissions (FileMode.mk <$> Reader.word32)
  let times ← readerIf flags AttributeFlag.times pairReader
  let extended ← readerIf flags AttributeFlag.extended extendedReader
  return {
    size, owner, permissions, times, extended
    reserved := flags &&& ~~~AttributeFlag.known
    reserved_known := unknown_known flags }

def reader : Reader Attributes := do
  let flags ← Reader.word32
  readerFor flags

def shape (hidden : Char → Bool) (attrs : Attributes) : String :=
  Shape.record "Attributes"
    [("flags", Shape.number attrs.flags.toNat), ("size", Shape.number attrs.sizeOrZero.toNat),
     ("uid", Shape.number attrs.ownerOrZero.1.toNat),
     ("gid", Shape.number attrs.ownerOrZero.2.toNat),
     ("permissions",
       Shape.tagged "FileMode" (Shape.number attrs.permissionsOrZero.word.toNat)),
     ("atime", Shape.number attrs.timesOrZero.1.toNat),
     ("mtime", Shape.number attrs.timesOrZero.2.toNat),
     ("extended",
       Shape.list (attrs.extendedOrEmpty.map (ExtendedAttribute.shape hidden)))]

end Attributes

end SftpWire
