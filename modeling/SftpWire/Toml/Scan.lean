/-!
Scanning a text from its front. A scan gives a value and what follows it, or fails and gives
nothing, so that another scan can be tried at the same place.
-/

namespace SftpWire.Toml

/-- A scan. -/
abbrev Scan := StateT (List Char) Option

namespace Scan

variable {α β : Type}

/-- The next character, which stays where it is. -/
def peek? : Scan (Option Char) := fun text => some (text.head?, text)

/-- The next character, if it is one of a class. -/
def one (accepts : Char → Bool) : Scan Char
  | c :: rest => if accepts c then some (c, rest) else none
  | [] => none

def char (c : Char) : Scan Unit := discard (one (· == c))

/-- Given characters in a row. -/
def exactly (word : String) : Scan Unit :=
  word.toList.forM char

/-- As many characters of a class as there are. -/
def run (accepts : Char → Bool) : Scan (List Char) := fun text => some (text.span accepts)

/-- At least one character of a class. -/
def run₁ (accepts : Char → Bool) : Scan (List Char) := do
  let first ← one accepts
  let more ← run accepts
  return first :: more

/-- The end of the text. -/
def atEnd : Scan Unit
  | [] => some ((), [])
  | _ :: _ => none

/-- A scan as often as it succeeds, at most once for each character of `bound`. -/
def manyWithin (scan : Scan α) : (bound : List Char) → List Char → List α × List Char
  | [], text => ([], text)
  | _ :: bound, text =>
    match scan text with
    | none => ([], text)
    | some (value, rest) =>
      let (values, last) := manyWithin scan bound rest
      (value :: values, last)

/-- A scan as often as it succeeds. Each time takes at least one character, so the text itself
bounds how often that is. -/
def many (scan : Scan α) : Scan (List α) := fun text => some (manyWithin scan text text)

/-- Values with a separator between each two. -/
def separated (scan : Scan α) (separator : Scan β) : Scan (List α) := do
  let first ← scan
  let more ← many do
    discard separator
    scan
  return first :: more

/-- What a scan takes, besides what it gives. -/
def captured (scan : Scan α) : Scan (List Char × α) := fun text =>
  match scan text with
  | none => none
  | some (value, rest) => some ((text.take (text.length - rest.length), value), rest)

/-- A value that may not be there. -/
def ofOption (value : Option α) : Scan α := fun text => value.map (·, text)

/-- Fails unless a condition holds. -/
def check (condition : Bool) : Scan Unit := fun text => if condition then some ((), text) else none

end Scan

end SftpWire.Toml
