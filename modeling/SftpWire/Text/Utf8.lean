import SftpWire.Wire.Bytes

/-!
UTF-8. `scan` cuts bytes into characters; where bytes are no character it cuts off the longest run
that could still have begun one, or a single byte when nothing could, and marks the place. Valid
text, strict decoding and lossy decoding are three views of that one cut.
-/

namespace SftpWire.Utf8

/-- The bytes of a character. -/
def encodeChar (c : Char) : Bytes :=
  let n := c.toNat
  if n < 0x80 then
    [UInt8.ofNat n]
  else if n < 0x800 then
    [UInt8.ofNat (0xC0 + n / 64), UInt8.ofNat (0x80 + n % 64)]
  else if n < 0x10000 then
    [UInt8.ofNat (0xE0 + n / 4096), UInt8.ofNat (0x80 + n / 64 % 64), UInt8.ofNat (0x80 + n % 64)]
  else
    [UInt8.ofNat (0xF0 + n / 262144), UInt8.ofNat (0x80 + n / 4096 % 64),
     UInt8.ofNat (0x80 + n / 64 % 64), UInt8.ofNat (0x80 + n % 64)]

/-- The bytes of a text. -/
def encode (text : List Char) : Bytes :=
  text.flatMap encodeChar

/-- The bytes of a string. -/
def ofString (text : String) : Bytes :=
  encode text.toList

/-- What a first byte says about the bytes after it: how many there are, and between which bounds
the next of them lies. The bounds leave out overlong forms, surrogates and numbers beyond the last
character. -/
inductive Lead where
  | one
  | two
  /-- Two more bytes, the first of them between the bounds. -/
  | three (low high : UInt8)
  /-- Three more bytes, the first of them between the bounds. -/
  | four (low high : UInt8)
  | none
  deriving DecidableEq

/-- Reads a first byte. -/
def Lead.ofByte (b : UInt8) : Lead :=
  if b < 0x80 then .one
  else if b < 0xC2 then .none
  else if b < 0xE0 then .two
  else if b = 0xE0 then .three 0xA0 0xBF
  else if b = 0xED then .three 0x80 0x9F
  else if b < 0xF0 then .three 0x80 0xBF
  else if b = 0xF0 then .four 0x90 0xBF
  else if b < 0xF4 then .four 0x80 0xBF
  else if b = 0xF4 then .four 0x80 0x8F
  else .none

/-- Whether a byte lies between bounds. -/
def within (low high b : UInt8) : Bool :=
  low ≤ b && b ≤ high

/-- Whether a byte can stand after the first two of a character, or second in one of two bytes. -/
def isTail (b : UInt8) : Bool :=
  within 0x80 0xBF b

/-- The character of two bytes. -/
def char₂ (b c : UInt8) : Char :=
  Char.ofNat (b.toNat % 32 * 64 + c.toNat % 64)

/-- The character of three bytes. -/
def char₃ (b c d : UInt8) : Char :=
  Char.ofNat (b.toNat % 16 * 4096 + c.toNat % 64 * 64 + d.toNat % 64)

/-- The character of four bytes. -/
def char₄ (b c d e : UInt8) : Char :=
  Char.ofNat (b.toNat % 8 * 262144 + c.toNat % 64 * 4096 + d.toNat % 64 * 64 + e.toNat % 64)

/-- Cuts bytes into characters, with `none` for each run that is none. What was cut before is
carried along, last first. -/
def scanOnto (done : List (Option Char)) : Bytes → List (Option Char)
  | [] => done.reverse
  | b :: rest =>
    match Lead.ofByte b with
    | .none => scanOnto (none :: done) rest
    | .one => scanOnto (some (Char.ofNat b.toNat) :: done) rest
    | .two =>
      match rest with
      | [] => (none :: done).reverse
      | c :: rest₁ =>
        if isTail c then scanOnto (some (char₂ b c) :: done) rest₁
        else scanOnto (none :: done) (c :: rest₁)
    | .three low high =>
      match rest with
      | [] => (none :: done).reverse
      | c :: rest₁ =>
        if within low high c then
          match rest₁ with
          | [] => (none :: done).reverse
          | d :: rest₂ =>
            if isTail d then scanOnto (some (char₃ b c d) :: done) rest₂
            else scanOnto (none :: done) (d :: rest₂)
        else scanOnto (none :: done) (c :: rest₁)
    | .four low high =>
      match rest with
      | [] => (none :: done).reverse
      | c :: rest₁ =>
        if within low high c then
          match rest₁ with
          | [] => (none :: done).reverse
          | d :: rest₂ =>
            if isTail d then
              match rest₂ with
              | [] => (none :: done).reverse
              | e :: rest₃ =>
                if isTail e then scanOnto (some (char₄ b c d e) :: done) rest₃
                else scanOnto (none :: done) (e :: rest₃)
            else scanOnto (none :: done) (d :: rest₂)
        else scanOnto (none :: done) (c :: rest₁)

/-- Cuts bytes into characters, with `none` for each run that is none. -/
def scan (bytes : Bytes) : List (Option Char) :=
  scanOnto [] bytes

/-- Whether bytes are the UTF-8 form of a text. -/
def isValid (bytes : Bytes) : Bool :=
  (scan bytes).all Option.isSome

/-- What stands in a text where the bytes are no character. -/
def replacement : Char := '\uFFFD'

/-- The text of bytes, with one replacement character for each run that is no character. -/
def lossy (bytes : Bytes) : List Char :=
  (scan bytes).map (·.getD replacement)

/-- The text of bytes, if they are valid. -/
def decode? (bytes : Bytes) : Option (List Char) :=
  if isValid bytes then some (lossy bytes) else none

/-- Whether bytes are the UTF-8 form of the given text. -/
def spells (text : List Char) (bytes : Bytes) : Bool :=
  bytes == encode text

/-- The lossy text as a string. -/
def toStringLossy (bytes : Bytes) : String :=
  String.ofList (lossy bytes)

end SftpWire.Utf8
