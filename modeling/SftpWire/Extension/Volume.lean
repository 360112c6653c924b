import SftpWire.Wire.Primitive

/-!
The figures of a file system: sizes and counts as eight-byte words, eleven in a row. Space is given
in fragments; in bytes it is the product, or the largest word when the product does not fit.
-/

namespace SftpWire

/-- The figures of a file system. -/
structure Volume where
  blockSize : UInt64 := 0
  fragmentSize : UInt64 := 0
  /-- The size of the file system, in fragments. -/
  blocks : UInt64 := 0
  blocksFree : UInt64 := 0
  /-- The fragments that are free to every user. -/
  blocksAvailable : UInt64 := 0
  /-- The number of files that there can be. -/
  files : UInt64 := 0
  filesFree : UInt64 := 0
  /-- The number of files that every user can still make. -/
  filesAvailable : UInt64 := 0
  id : UInt64 := 0
  mountFlags : UInt64 := 0
  maxNameLength : UInt64 := 0
  deriving DecidableEq, Repr

namespace Volume

/-- The product of two words, or the largest word. -/
def saturatingMul (a b : UInt64) : UInt64 :=
  if a.toNat * b.toNat < 18446744073709551616 then a * b else 18446744073709551615

def totalSpace (volume : Volume) : UInt64 :=
  saturatingMul volume.fragmentSize volume.blocks

def freeSpace (volume : Volume) : UInt64 :=
  saturatingMul volume.fragmentSize volume.blocksFree

def availableSpace (volume : Volume) : UInt64 :=
  saturatingMul volume.fragmentSize volume.blocksAvailable

/-- Whether nothing can be written. -/
def isReadOnly (volume : Volume) : Bool :=
  volume.mountFlags &&& 1 != 0

/-- Whether the bits that lend a user's rights to a program have no effect. -/
def ignoresSetUser (volume : Volume) : Bool :=
  volume.mountFlags &&& 2 != 0

/-- The figures in the order in which they are written, each under its name. -/
def fields (volume : Volume) : List (String × UInt64) :=
  [("block_size", volume.blockSize), ("fragment_size", volume.fragmentSize),
   ("blocks", volume.blocks), ("blocks_free", volume.blocksFree),
   ("blocks_avail", volume.blocksAvailable), ("files", volume.files),
   ("files_free", volume.filesFree), ("files_avail", volume.filesAvailable),
   ("fsid", volume.id), ("mount_flags", volume.mountFlags),
   ("max_name_length", volume.maxNameLength)]

def bytes (volume : Volume) : Bytes :=
  volume.fields.flatMap fun field => Bytes.ofWord64 field.2

def reader : Reader Volume := do
  let blockSize ← Reader.word64
  let fragmentSize ← Reader.word64
  let blocks ← Reader.word64
  let blocksFree ← Reader.word64
  let blocksAvailable ← Reader.word64
  let files ← Reader.word64
  let filesFree ← Reader.word64
  let filesAvailable ← Reader.word64
  let id ← Reader.word64
  let mountFlags ← Reader.word64
  let maxNameLength ← Reader.word64
  return {
    blockSize, fragmentSize, blocks, blocksFree, blocksAvailable, files, filesFree, filesAvailable
    id, mountFlags, maxNameLength }

end Volume

end SftpWire
