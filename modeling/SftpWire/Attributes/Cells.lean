import SftpWire.Attributes.Codec

/-!
Attributes as a program keeps them: a flag word, and a cell for every number of every attribute
whether it is there or not. Nothing in this form keeps a flag and its cells together, so every
change, every writer and every reader has to look after both.
-/

namespace SftpWire.Attributes

/-! ## The five attributes -/

/-- The attributes that have a flag. -/
inductive Aspect where
  | size
  | owner
  | permissions
  | times
  | extended
  deriving DecidableEq, Repr

namespace Aspect

def flag : Aspect → UInt32
  | .size => AttributeFlag.size
  | .owner => AttributeFlag.owner
  | .permissions => AttributeFlag.permissions
  | .times => AttributeFlag.times
  | .extended => AttributeFlag.extended

/-- What an attribute holds. -/
def Value : Aspect → Type
  | .size => UInt64
  | .owner => UInt32 × UInt32
  | .permissions => FileMode
  | .times => UInt32 × UInt32
  | .extended => List ExtendedAttribute

/-- What an attribute that is not there reads as. -/
def zero : (aspect : Aspect) → aspect.Value
  | .size => (0 : UInt64)
  | .owner => ((0, 0) : UInt32 × UInt32)
  | .permissions => FileMode.mk 0
  | .times => ((0, 0) : UInt32 × UInt32)
  | .extended => ([] : List ExtendedAttribute)

end Aspect

/-- The attribute that a change is of. -/
def Edit.aspect : Edit → Aspect
  | .setSize _ | .clearSize => .size
  | .setOwner _ _ | .clearOwner => .owner
  | .setPermissions _ | .clearPermissions => .permissions
  | .setTimes _ _ | .clearTimes => .times
  | .setExtended _ | .clearExtended => .extended

/-- The change that takes an attribute out. -/
def Edit.clear : Aspect → Edit
  | .size => .clearSize
  | .owner => .clearOwner
  | .permissions => .clearPermissions
  | .times => .clearTimes
  | .extended => .clearExtended

/-- The change that puts a value in. -/
def Edit.set : (aspect : Aspect) → aspect.Value → Edit
  | .size, size => .setSize size
  | .owner, owner => .setOwner owner.1 owner.2
  | .permissions, mode => .setPermissions mode
  | .times, times => .setTimes times.1 times.2
  | .extended, extended => .setExtended extended

/-! ## Cells -/

/-- Attributes as they are kept. -/
structure Cells where
  flags : UInt32 := 0
  size : UInt64 := 0
  user : UInt32 := 0
  group : UInt32 := 0
  permissions : FileMode := ⟨0⟩
  access : UInt32 := 0
  change : UInt32 := 0
  extended : List ExtendedAttribute := []
  deriving DecidableEq

/-- How attributes are kept. -/
def cells (attrs : Attributes) : Cells where
  flags := attrs.flags
  size := attrs.sizeOrZero
  user := attrs.ownerOrZero.1
  group := attrs.ownerOrZero.2
  permissions := attrs.permissionsOrZero
  access := attrs.timesOrZero.1
  change := attrs.timesOrZero.2
  extended := attrs.extendedOrEmpty

namespace Cells

def value (cells : Cells) : (aspect : Aspect) → aspect.Value
  | .size => cells.size
  | .owner => (cells.user, cells.group)
  | .permissions => cells.permissions
  | .times => (cells.access, cells.change)
  | .extended => cells.extended

/-! ## Changes -/

/-- The cells with a value of one attribute put in, under the same flags. -/
def fill (cells : Cells) : (aspect : Aspect) → aspect.Value → Cells
  | .size, size => { cells with size }
  | .owner, owner => { cells with user := owner.1, group := owner.2 }
  | .permissions, permissions => { cells with permissions }
  | .times, times => { cells with access := times.1, change := times.2 }
  | .extended, extended => { cells with extended }

/-- Raises the flag of an attribute and fills its cells. -/
def set (cells : Cells) (aspect : Aspect) (value : aspect.Value) : Cells :=
  { cells.fill aspect value with flags := cells.flags ||| aspect.flag }

/-- Lowers the flag of an attribute and empties its cells. -/
def clear (cells : Cells) (aspect : Aspect) : Cells :=
  { cells.fill aspect aspect.zero with flags := cells.flags &&& ~~~aspect.flag }

/-- The cells after a change. -/
def apply (cells : Cells) : Edit → Cells
  | .setSize size => cells.set .size size
  | .clearSize => cells.clear .size
  | .setOwner user group => cells.set .owner (user, group)
  | .clearOwner => cells.clear .owner
  | .setPermissions mode => cells.set .permissions mode
  | .clearPermissions => cells.clear .permissions
  | .setTimes access change => cells.set .times (access, change)
  | .clearTimes => cells.clear .times
  | .setExtended extended => cells.set .extended extended
  | .clearExtended => cells.clear .extended

/-- The cells after changes, the first of them first. -/
def edit (cells : Cells) (edits : List Edit) : Cells :=
  edits.foldl apply cells

/-! ## On the wire -/

/-- What counts under a flag, if the flag is up. -/
def under {α : Type} (cells : Cells) (flag : UInt32) (absent present : α) : α :=
  if cells.flags &&& flag = 0 then absent else present

/-- The cells whose flags are up, behind the flag word. -/
def bytes (cells : Cells) : Bytes :=
  Bytes.ofWord32 cells.flags ++
    (cells.under AttributeFlag.size [] (Bytes.ofWord64 cells.size) ++
      cells.under AttributeFlag.owner []
        (Bytes.ofWord32 cells.user ++ Bytes.ofWord32 cells.group) ++
      cells.under AttributeFlag.permissions [] (Bytes.ofWord32 cells.permissions.word) ++
      cells.under AttributeFlag.times []
        (Bytes.ofWord32 cells.access ++ Bytes.ofWord32 cells.change) ++
      cells.under AttributeFlag.extended [] (extendedBytes cells.extended))

def wireSize (cells : Cells) : Nat :=
  4 + cells.under AttributeFlag.size 0 8 + cells.under AttributeFlag.owner 0 8 +
    cells.under AttributeFlag.permissions 0 4 + cells.under AttributeFlag.times 0 8 +
    cells.under AttributeFlag.extended 0
      (4 + Bytes.rowSize ExtendedAttribute.wireSize cells.extended)

/-- Reads a cell if its flag is in the flag word. -/
def readerOr {α : Type} (flags flag : UInt32) (reader : Reader α) (absent : α) : Reader α :=
  if flags &&& flag = 0 then pure absent else reader

/-- Fills the cells that a flag word announces. -/
def readerFor (flags : UInt32) : Reader Cells := do
  let size ← readerOr flags AttributeFlag.size Reader.word64 0
  let owner ← readerOr flags AttributeFlag.owner pairReader (0, 0)
  let permissions ← readerOr flags AttributeFlag.permissions (FileMode.mk <$> Reader.word32) ⟨0⟩
  let times ← readerOr flags AttributeFlag.times pairReader (0, 0)
  let extended ← readerOr flags AttributeFlag.extended extendedReader []
  return {
    flags, size, user := owner.1, group := owner.2, permissions
    access := times.1, change := times.2, extended }

def reader : Reader Cells := do
  let flags ← Reader.word32
  readerFor flags

end Cells

end SftpWire.Attributes
