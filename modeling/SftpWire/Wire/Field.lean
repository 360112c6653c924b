import SftpWire.Wire.Primitive

/-!
Typed fields. A `Field` names one of the primitive shapes and a `Value` is a value of one of them,
so a list of fields is a layout and a list of values is what is written in it.
-/

namespace SftpWire

/-- The shape of one primitive value. -/
inductive Field where
  | byte
  | flag
  | word16
  | word32
  | word64
  | string
  deriving DecidableEq, Repr

/-- One primitive value. -/
inductive Value where
  | byte (byte : UInt8)
  | flag (flag : Bool)
  | word16 (word : UInt16)
  | word32 (word : UInt32)
  | word64 (word : UInt64)
  | string (bytes : Bytes)
  deriving DecidableEq, Repr

namespace Value

def field : Value → Field
  | .byte _ => .byte
  | .flag _ => .flag
  | .word16 _ => .word16
  | .word32 _ => .word32
  | .word64 _ => .word64
  | .string _ => .string

def bytes : Value → Bytes
  | .byte v => [v]
  | .flag v => Bytes.ofFlag v
  | .word16 v => Bytes.ofWord16 v
  | .word32 v => Bytes.ofWord32 v
  | .word64 v => Bytes.ofWord64 v
  | .string v => Bytes.ofString v

/-- Values one after the other. -/
def row (values : List Value) : Bytes :=
  values.flatMap bytes

end Value

namespace Field

def reader : Field → Reader Value
  | .byte => Value.byte <$> Reader.byte
  | .flag => Value.flag <$> Reader.flag
  | .word16 => Value.word16 <$> Reader.word16
  | .word32 => Value.word32 <$> Reader.word32
  | .word64 => Value.word64 <$> Reader.word64
  | .string => Value.string <$> Reader.string

/-- Reads one value for each field of a layout. -/
def row : List Field → Reader (List Value)
  | [] => pure []
  | field :: fields => do
    let value ← field.reader
    let values ← row fields
    return value :: values

end Field

end SftpWire
