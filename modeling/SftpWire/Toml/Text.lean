import SftpWire.Toml.Scan

/-!
The parts of a TOML document that are text: blanks and comments, the four kinds of string, and keys.
Control characters stand nowhere in a document but in line ends, and tabs.
-/

namespace SftpWire.Toml

open Scan

def isBlank (c : Char) : Bool := c == ' ' || c == '\t'

/-- Characters that can stand in a comment, and in strings but for their marks. -/
def isText (c : Char) : Bool := c == '\t' || (0x20 ≤ c.toNat && c.toNat != 0x7F)

/-- The mark of strings with escapes. -/
def isQuote (c : Char) : Bool := c == '\x22'

/-- The mark of strings without. -/
def isApostrophe (c : Char) : Bool := c == '\x27'

/-- The sign that begins an escape. -/
def isBackslash (c : Char) : Bool := c == '\x5c'

/-- Blanks, if there are any. -/
def blanks : Scan Unit := discard (run isBlank)

def newline : Scan Unit := char '\n' <|> (char '\r' *> char '\n')

def comment : Scan Unit := char '#' *> discard (run isText)

/-- Blanks, comments and ends of lines, if there are any. -/
def gap : Scan Unit := discard (many (discard (run₁ isBlank) <|> newline <|> comment))

def isHexDigit (c : Char) : Bool :=
  ('0' ≤ c && c ≤ '9') || ('a' ≤ c && c ≤ 'f') || ('A' ≤ c && c ≤ 'F')

/-- The value of a digit, in any base up to sixteen. -/
def digitValue (c : Char) : Nat :=
  if c ≤ '9' then c.toNat - 0x30 else if c ≤ 'F' then c.toNat - 0x37 else c.toNat - 0x57

/-- The number that digits stand for. -/
def ofDigits (base : Nat) (digits : List Char) : Nat :=
  digits.foldl (fun n c => n * base + digitValue c) 0

/-- The character whose number is written with so many digits. It must be one that texts can
hold. -/
def numbered : (digits : Nat) → (number : Nat) → Scan Char
  | 0, number =>
    if number.isValidChar then pure (Char.ofNat number) else failure
  | digits + 1, number => do
    let c ← one isHexDigit
    numbered digits (number * 16 + digitValue c)

def escape : Scan Char := do
  discard (one isBackslash)
  let c ← one fun _ => true
  match c with
  | 'b' => return '\x08'
  | 't' => return '\t'
  | 'n' => return '\n'
  | 'f' => return '\x0c'
  | 'r' => return '\r'
  | '\x22' => return '\x22'
  | '\x5c' => return '\x5c'
  | 'u' => numbered 4 0
  | 'U' => numbered 8 0
  | _ => failure

/-- A string with escapes, on one line. -/
def basicString : Scan String := do
  discard (one isQuote)
  let content ← many (one (fun c => isText c && !isQuote c && !isBackslash c) <|> escape)
  discard (one isQuote)
  return String.ofList content

/-- A string without escapes, on one line. -/
def literalString : Scan String := do
  discard (one isApostrophe)
  let content ← run fun c => isText c && !isApostrophe c
  discard (one isApostrophe)
  return String.ofList content

/-- One or two marks inside a string that three of them end. -/
def fewMarks (isMark : Char → Bool) : Scan (List Char) := do
  let marks ← run₁ isMark
  check (marks.length ≤ 2)
  return marks

/-- Three marks that end a string, with at most two before them that belong to it. -/
def closingMarks (isMark : Char → Bool) : Scan (List Char) := do
  let marks ← run₁ isMark
  check (3 ≤ marks.length && marks.length ≤ 5)
  return marks.drop 3

/-- Three marks that begin a string. An end of line right after them is not part of it. -/
def openingMarks (isMark : Char → Bool) : Scan Unit := do
  discard (one isMark)
  discard (one isMark)
  discard (one isMark)
  discard (optional newline)

/-- A backslash at the end of a line, which takes the end and the blanks after it out of the
string. -/
def continuation : Scan (List Char) := do
  discard (one isBackslash)
  blanks
  newline
  discard (many (discard (run₁ isBlank) <|> newline))
  return []

/-- The end of a line as part of a string. -/
def newlineText : Scan (List Char) := newline *> pure ['\n']

/-- A string with escapes, over any number of lines. -/
def longBasicString : Scan String := do
  openingMarks isQuote
  let content ← many <|
    run₁ (fun c => isText c && !isQuote c && !isBackslash c)
      <|> newlineText <|> (([·]) <$> escape) <|> continuation <|> fewMarks isQuote
  let last ← closingMarks isQuote
  return String.ofList (content.flatten ++ last)

/-- A string without escapes, over any number of lines. -/
def longLiteralString : Scan String := do
  openingMarks isApostrophe
  let content ← many <|
    run₁ (fun c => isText c && !isApostrophe c) <|> newlineText <|> fewMarks isApostrophe
  let last ← closingMarks isApostrophe
  return String.ofList (content.flatten ++ last)

def string : Scan String :=
  longBasicString <|> basicString <|> longLiteralString <|> literalString

/-- The characters of keys without marks. -/
def isBareKey (c : Char) : Bool :=
  ('0' ≤ c && c ≤ '9') || ('a' ≤ c && c ≤ 'z') || ('A' ≤ c && c ≤ 'Z') || c == '_' || c == '-'

/-- One part of a key. -/
def simpleKey : Scan String :=
  (String.ofList <$> run₁ isBareKey) <|> basicString <|> literalString

/-- How far tables and arrays may be nested, and how many parts a key may have. -/
def nestingLimit : Nat := 79

/-- A key with dots between its parts: the parts before the last, and the last. -/
def key : Scan (List String × String) := do
  let parts ← separated (blanks *> simpleKey <* blanks) (char '.')
  check (parts.length ≤ nestingLimit)
  let last ← ofOption parts.getLast?
  return (parts.dropLast, last)

end SftpWire.Toml
