import SftpWire.Wire.Bytes

/-!
Hexadecimal digits. Bytes are written as two lower-case digits each; digits of either case are
read.
-/

namespace SftpWire.Hex

/-- The lower-case digit of a number below sixteen. -/
def digit (n : Nat) : Char :=
  if n < 10 then Char.ofNat (0x30 + n) else Char.ofNat (0x57 + n)

/-- The two digits of a byte. -/
def ofByte (b : UInt8) : List Char :=
  [digit (b.toNat / 16), digit (b.toNat % 16)]

/-- The digits of bytes. -/
def encode (bytes : Bytes) : List Char :=
  bytes.flatMap ofByte

/-- The value of a digit, given as a byte of ASCII. -/
def value? (b : UInt8) : Option UInt8 :=
  if 0x30 ≤ b && b ≤ 0x39 then some (b - 0x30)
  else if 0x41 ≤ b && b ≤ 0x46 then some (b - 0x37)
  else if 0x61 ≤ b && b ≤ 0x66 then some (b - 0x57)
  else none

/-- Why bytes are no hexadecimal text. -/
inductive Fault where
  | oddLength
  /-- A byte that is no digit, and its index. -/
  | notDigit (byte : UInt8) (index : Nat)
  deriving DecidableEq, Repr

/-- Reads digits in pairs, the first at the given index. What was read before is carried along,
last first. -/
def decodeOnto (done : Bytes) (index : Nat) : Bytes → Except Fault Bytes
  | high :: low :: rest =>
    match value? high with
    | none => .error (.notDigit high index)
    | some h =>
      match value? low with
      | none => .error (.notDigit low (index + 1))
      | some l => decodeOnto ((h * 16 + l) :: done) (index + 2) rest
  | _ => .ok done.reverse

/-- The bytes that digits stand for. An odd number of digits is noticed before a wrong one. -/
def decode (digits : Bytes) : Except Fault Bytes :=
  if digits.length % 2 = 1 then .error .oddLength else decodeOnto [] 0 digits

end SftpWire.Hex
