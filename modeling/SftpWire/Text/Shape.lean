import SftpWire.Text.Quoted

/-!
The text of structured values: records with named fields, tagged values and lists, on one line.
-/

namespace SftpWire.Shape

/-- Items with commas between them. -/
def commas (items : List String) : String :=
  ", ".intercalate items

/-- A list of items. -/
def list (items : List String) : String :=
  "[" ++ commas items ++ "]"

/-- A value under a name. -/
def tagged (name value : String) : String :=
  name ++ "(" ++ value ++ ")"

/-- Named fields under a name. -/
def record (name : String) (fields : List (String × String)) : String :=
  name ++ " \x7b " ++ commas (fields.map fun field => field.1 ++ ": " ++ field.2) ++ " \x7d"

/-- A string in quotes, where the characters of a class are escaped by number. -/
def string (hidden : Char → Bool) (content : Bytes) : String :=
  String.ofList (Quoted.stringBy hidden content)

def bytes (content : Bytes) : String :=
  String.ofList (Quoted.bytes content)

/-- A number. -/
def number (n : Nat) : String :=
  toString n

end SftpWire.Shape
