import SftpWire.Text.Hex
import SftpWire.Text.Printable
import SftpWire.Text.Utf8

/-!
Quoted text. A text is written between quotes with the characters that cannot be shown escaped by
number, and bytes are written after a `b` with every byte outside ASCII escaped as two digits. A
string whose bytes may be text or not is quoted as what it is. Which characters can be shown depends
on the tables that one has of them, so they are an argument wherever text is quoted; `isHidden` is
what they are by the tables that are here.
-/

namespace SftpWire.Quoted

/-- The escapes that have a letter of their own, by the number of the character. -/
def letter? (n : Nat) : Option Char :=
  if n = 0x00 then some '0'
  else if n = 0x09 then some 't'
  else if n = 0x0A then some 'n'
  else if n = 0x0D then some 'r'
  else none

/-- Whether a character is escaped by number: it extends the one before it, or it is not printable
at all. -/
def isHidden (c : Char) : Bool :=
  Printable.isExtending c || !Printable.isPrintable c

/-- A character as it stands between two marks of the given kind, of which it must not be one
unescaped. Characters of the given class are escaped by number. -/
def charBy (hidden : Char → Bool) (mark c : Char) : List Char :=
  if c = mark || c = '\x5c' then ['\x5c', c]
  else
    match letter? c.toNat with
    | some escape => ['\x5c', escape]
    | none =>
      if hidden c then ['\x5c', 'u', '\x7b'] ++ Nat.toDigits 16 c.toNat ++ ['\x7d'] else [c]

def byte (b : UInt8) : List Char :=
  let c := Char.ofNat b.toNat
  if b = 0x22 || b = 0x5C then ['\x5c', c]
  else
    match letter? b.toNat with
    | some escape => ['\x5c', escape]
    | none => if 0x20 ≤ b && b < 0x7F then [c] else ['\x5c', 'x'] ++ Hex.ofByte b

/-- A text in quotes. -/
def textBy (hidden : Char → Bool) (content : List Char) : List Char :=
  ['\x22'] ++ content.flatMap (charBy hidden '\x22') ++ ['\x22']

/-- A character in single quotes. -/
def singleBy (hidden : Char → Bool) (c : Char) : List Char :=
  ['\x27'] ++ charBy hidden '\x27' c ++ ['\x27']

def bytes (content : Bytes) : List Char :=
  ['b', '\x22'] ++ content.flatMap byte ++ ['\x22']

/-- A string in quotes: as text if it is valid UTF-8, as bytes otherwise. -/
def stringBy (hidden : Char → Bool) (content : Bytes) : List Char :=
  match Utf8.decode? content with
  | some decoded => textBy hidden decoded
  | none => bytes content

/-- A string in quotes, by the tables that are here. -/
def string : Bytes → List Char :=
  stringBy isHidden

end SftpWire.Quoted
