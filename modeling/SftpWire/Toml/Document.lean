import SftpWire.Toml.Scalar

/-!
TOML documents. A document is a row of lines, each of which says at most one thing: it opens a table
or gives a key of the table that is open a value.
-/

namespace SftpWire.Toml

open Scan

/-- What a line says. A table and a key are given as the parts of a dotted key before the last, and
the last. -/
inductive Statement where
  | table (parents : List String) (last : String)
  /-- Opens one more of the tables that share a header. -/
  | next (parents : List String) (last : String)
  | assign (parents : List String) (last : String) (value : Value)

/-- An array of values. -/
def array (value : Scan Value) : Scan (List Value) := do
  char '['
  let items ← optional (separated (gap *> value <* gap) (char ','))
  if items.isSome then discard (optional (char ','))
  gap
  char ']'
  return items.getD []

/-- A key and its value. -/
def assignment (value : Scan Value) : Scan ((List String × String) × Value) := do
  let name ← key
  char '='
  blanks
  let given ← value
  return (name, given)

/-- A table as a value, on one line. -/
def inlineTable (value : Scan Value) : Scan Table := do
  char '\x7b'
  let pairs ← optional (separated (assignment value <* blanks) (char ','))
  blanks
  char '\x7d'
  ofOption (Table.ofPairs? (pairs.getD []))

/-- A value in which others may be nested so many deep. -/
def value : (depth : Nat) → Scan Value
  | 0 => scalar
  | depth + 1 => do
    match ← peek? with
    | some '[' => Value.array <$> array (value depth)
    | some '\x7b' => Value.table .inline <$> inlineTable (value depth)
    | _ => scalar

/-- What a line says, if it says anything. -/
def statement : Scan Statement :=
  (do
    exactly "[["
    let name ← key
    exactly "]]"
    return .next name.1 name.2)
  <|> (do
    char '['
    let name ← key
    char ']'
    return .table name.1 name.2)
  <|> (do
    let (name, given) ← assignment (value nestingLimit)
    return .assign name.1 name.2 given)

/-- A line with its end. -/
def line : Scan (Option Statement) := do
  blanks
  let said ← optional statement
  blanks
  discard (optional comment)
  newline <|> atEnd
  return said

/-- What the lines of a text say, at most one line for each character of `bound`. -/
def linesWithin : (bound : List Char) → List Char → Option (List Statement)
  | _, [] => some []
  | [], _ => none
  | _ :: bound, text =>
    match line text with
    | none => none
    | some (said, rest) => (linesWithin bound rest).map (said.toList ++ ·)

/-- What the lines of a text say. A byte order mark before the first is passed over. -/
def statements? (text : List Char) : Option (List Statement) :=
  match text with
  | '\uFEFF' :: rest => linesWithin rest rest
  | _ => linesWithin text text

/-- A document up to some line: the table that is open, and all that was said. -/
structure Draft where
  path : List String
  root : Table

def Draft.add (draft : Draft) : Statement → Option Draft
  | .table parents last =>
    (draft.root.update (Table.openTable last) parents).map fun root =>
      { path := parents ++ [last], root }
  | .next parents last =>
    (draft.root.update (Table.openNext last) parents).map fun root =>
      { path := parents ++ [last], root }
  | .assign parents last value =>
    (draft.root.update (Table.insert last value parents) draft.path).map fun root =>
      { draft with root }

/-- The document of a text, if it is one. -/
def parse? (text : String) : Option Table := do
  let said ← statements? text.toList
  let draft ← said.foldlM Draft.add { path := [], root := [] }
  return draft.root

end SftpWire.Toml
