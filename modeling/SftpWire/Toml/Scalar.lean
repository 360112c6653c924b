import SftpWire.Toml.Text
import SftpWire.Toml.Value

/-!
The values of TOML documents that hold no others: strings, numbers, truth values, dates and times.
Integers are those that eight bytes hold, and a float must not be so large that it has no number.
-/

namespace SftpWire.Toml

open Scan

/-- A decimal digit. -/
def isDigit (c : Char) : Bool := '0' ≤ c && c ≤ '9'

/-- Digits of a class, with single underscores between them. -/
def digits (isMine : Char → Bool) : Scan (List Char) := do
  let first ← one isMine
  let more ← many (optional (char '_') *> one isMine)
  return first :: more

/-- Decimal digits of which the first is zero only if it is the last. -/
def decimal : Scan (List Char) := do
  let all ← digits isDigit
  match all with
  | '0' :: _ :: _ => failure
  | _ => return all

/-- A sign; true for a minus. -/
def sign : Scan Bool := (char '-' *> pure true) <|> (char '+' *> pure false) <|> pure false

/-- An integer, if eight bytes hold it. -/
def bounded (n : Int) : Scan Int := do
  check (-9223372036854775808 ≤ n && n ≤ 9223372036854775807)
  return n

/-- Digits after the mark of their base. -/
def based (mark : String) (base : Nat) (isMine : Char → Bool) : Scan Int := do
  exactly mark
  let all ← digits isMine
  bounded (ofDigits base all)

/-- An integer. -/
def integer : Scan Int :=
  based "0x" 16 isHexDigit
    <|> based "0o" 8 (fun c => '0' ≤ c && c ≤ '7')
    <|> based "0b" 2 (fun c => c == '0' || c == '1')
    <|> do
      let negative ← sign
      let all ← decimal
      let n : Int := ofDigits 10 all
      bounded (if negative then -n else n)

/-- Whether `mantissa * 10 ^ exponent` is beyond the largest float of eight bytes, and nearer to the
number that would follow it. -/
def isHuge (mantissa : Nat) (exponent : Int) : Bool :=
  let bound := Nat.pow 2 1024 - Nat.pow 2 970
  let places := (Nat.toDigits 10 mantissa).length + exponent
  if mantissa = 0 || places ≤ 308 then false
  else if 309 < places then true
  else if 0 ≤ exponent then bound ≤ mantissa * Nat.pow 10 exponent.toNat
  else bound * Nat.pow 10 (-exponent).toNat ≤ mantissa

/-- The exponent of a float. -/
def exponent : Scan Int := do
  discard (one fun c => c == 'e' || c == 'E')
  let negative ← sign
  let all ← digits isDigit
  let n : Int := ofDigits 10 all
  return if negative then -n else n

/-- A float of digits: a fraction, an exponent or both after the whole part. One that is too large
is refused, but only above zero. -/
def decimalFloat : Scan Unit := do
  let negative ← sign
  let whole ← decimal
  let fraction ← optional (char '.' *> digits isDigit)
  let power ← optional exponent
  check (fraction.isSome || power.isSome)
  let places := fraction.getD []
  let mantissa := ofDigits 10 (whole ++ places)
  check (negative || !isHuge mantissa (power.getD 0 - places.length))

/-- A float that is no number, or beyond all numbers. -/
def specialFloat : Scan Unit := sign *> (exactly "inf" <|> exactly "nan")

/-- So many decimal digits, as a number between bounds. -/
def number (width low high : Nat) : Scan Nat := do
  let all ← (List.replicate width ()).mapM fun _ => one isDigit
  let n := ofDigits 10 all
  check (low ≤ n && n ≤ high)
  return n

def isLeap (year : Nat) : Bool :=
  year % 4 == 0 && (year % 100 != 0 || year % 400 == 0)

def daysIn (year month : Nat) : Nat :=
  if month == 2 then (if isLeap year then 29 else 28)
  else if month == 4 || month == 6 || month == 9 || month == 11 then 30
  else 31

def date : Scan Unit := do
  let year ← number 4 0 9999
  char '-'
  let month ← number 2 1 12
  char '-'
  discard (number 2 1 (daysIn year month))

/-- A time of day. A minute may have one more second than it mostly has. -/
def time : Scan Unit := do
  discard (number 2 0 23)
  char ':'
  discard (number 2 0 59)
  char ':'
  discard (number 2 0 60)
  discard (optional (char '.' *> run₁ isDigit))

/-- How far a time is from the common one. -/
def offset : Scan Unit :=
  discard (one fun c => c == 'Z' || c == 'z') <|> do
    discard (one fun c => c == '+' || c == '-')
    discard (number 2 0 23)
    char ':'
    discard (number 2 0 59)

/-- A date, a time, or a date with a time. -/
def moment : Scan Unit :=
  (do
    date
    discard (optional do
      discard (one fun c => c == 'T' || c == 't' || c == ' ')
      time
      optional offset))
  <|> time

def boolean : Scan Bool := (exactly "true" *> pure true) <|> (exactly "false" *> pure false)

def scalar : Scan Value :=
  (Value.text <$> string)
    <|> (Value.boolean <$> boolean)
    <|> ((fun taken => Value.moment (String.ofList taken.1)) <$> captured moment)
    <|> ((fun taken => Value.float (String.ofList taken.1)) <$>
      captured (decimalFloat <|> specialFloat))
    <|> (Value.integer <$> integer)

end SftpWire.Toml
