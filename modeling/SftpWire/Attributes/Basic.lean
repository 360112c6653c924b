import SftpWire.Attributes.FileMode
import SftpWire.Wire.Bytes

/-!
File attributes. Every attribute is there or not, and a flag word says which are: five of its bits
have a meaning, and the others are kept as they came. An attribute that is not there reads as zero.
-/

namespace SftpWire

/-- An attribute of a kind that only its maker knows. -/
structure ExtendedAttribute where
  type : Bytes
  data : Bytes
  deriving DecidableEq, Repr

namespace AttributeFlag

def size : UInt32 := 0x00000001

def owner : UInt32 := 0x00000002

def permissions : UInt32 := 0x00000004

def times : UInt32 := 0x00000008

def extended : UInt32 := 0x80000000

/-- All the bits of the flag word that have a meaning. -/
def known : UInt32 := 0x8000000F

end AttributeFlag

/-- File attributes. -/
structure Attributes where
  size : Option UInt64 := none
  /-- The numbers of the user and the group. -/
  owner : Option (UInt32 × UInt32) := none
  permissions : Option FileMode := none
  /-- The seconds of the last access and of the last change. -/
  times : Option (UInt32 × UInt32) := none
  extended : Option (List ExtendedAttribute) := none
  /-- The bits of the flag word that have no meaning. -/
  reserved : UInt32 := 0
  /-- They are kept apart from those that have one. -/
  reserved_known : reserved &&& AttributeFlag.known = 0 := by decide
  deriving DecidableEq

namespace Attributes

def empty : Attributes := {}

/-- A flag, if it is up. -/
def flagIf (up : Bool) (flag : UInt32) : UInt32 :=
  if up then flag else 0

/-- The flag word. -/
def flags (attrs : Attributes) : UInt32 :=
  attrs.reserved ||| flagIf attrs.size.isSome AttributeFlag.size
    ||| flagIf attrs.owner.isSome AttributeFlag.owner
    ||| flagIf attrs.permissions.isSome AttributeFlag.permissions
    ||| flagIf attrs.times.isSome AttributeFlag.times
    ||| flagIf attrs.extended.isSome AttributeFlag.extended

def sizeOrZero (attrs : Attributes) : UInt64 :=
  attrs.size.getD 0

def ownerOrZero (attrs : Attributes) : UInt32 × UInt32 :=
  attrs.owner.getD (0, 0)

def permissionsOrZero (attrs : Attributes) : FileMode :=
  attrs.permissions.getD ⟨0⟩

def timesOrZero (attrs : Attributes) : UInt32 × UInt32 :=
  attrs.times.getD (0, 0)

def extendedOrEmpty (attrs : Attributes) : List ExtendedAttribute :=
  attrs.extended.getD []

/-- A change of one attribute. -/
inductive Edit where
  | setSize (size : UInt64)
  | clearSize
  | setOwner (user group : UInt32)
  | clearOwner
  | setPermissions (mode : FileMode)
  | clearPermissions
  | setTimes (access change : UInt32)
  | clearTimes
  | setExtended (extended : List ExtendedAttribute)
  | clearExtended
  deriving DecidableEq, Repr

/-- The attributes after a change. -/
def Edit.apply (attrs : Attributes) : Edit → Attributes
  | .setSize size => { attrs with size := some size }
  | .clearSize => { attrs with size := none }
  | .setOwner user group => { attrs with owner := some (user, group) }
  | .clearOwner => { attrs with owner := none }
  | .setPermissions mode => { attrs with permissions := some mode }
  | .clearPermissions => { attrs with permissions := none }
  | .setTimes access change => { attrs with times := some (access, change) }
  | .clearTimes => { attrs with times := none }
  | .setExtended extended => { attrs with extended := some extended }
  | .clearExtended => { attrs with extended := none }

/-- The attributes after changes, the first of them first. -/
def edit (attrs : Attributes) (edits : List Edit) : Attributes :=
  edits.foldl Edit.apply attrs

end Attributes

end SftpWire
