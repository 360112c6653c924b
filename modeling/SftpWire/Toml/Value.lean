/-!
Values of TOML documents. A table remembers how it came to be, because that decides what may still
be added to it.
-/

namespace SftpWire.Toml

/-- How a table came to be. -/
inductive Origin where
  | header
  /-- As the parent of a table with a header. -/
  | implied
  | dotted
  /-- As a value; nothing can be added to it. -/
  | inline
  deriving DecidableEq, Repr

/-- A value. Floats, dates and times are kept as they are written. -/
inductive Value where
  | text (content : String)
  | integer (n : Int)
  | float (literal : String)
  | boolean (b : Bool)
  | moment (literal : String)
  | array (items : List Value)
  | table (origin : Origin) (entries : List (String × Value))
  /-- Tables that share a header in double brackets. -/
  | tables (tables : List (List (String × Value)))

/-- The entries of a table, in the order in which they came. -/
abbrev Table := List (String × Value)

namespace Table

def find? (key : String) (table : Table) : Option Value :=
  table.lookup key

/-- A table with another value for a key that it has. -/
def replace (key : String) (value : Value) (table : Table) : Table :=
  table.map fun entry => if entry.1 == key then (key, value) else entry

def add (key : String) (value : Value) (table : Table) : Table :=
  table ++ [(key, value)]

/-- Changes the table that headers reach by a path. Parents that are missing are made; a shared
header stands for the last of its tables; what is no table, or is closed, cannot be passed. -/
def update (change : Table → Option Table) : (path : List String) → Table → Option Table
  | [], table => change table
  | key :: path, table =>
    match table.find? key with
    | none => (update change path []).map fun child => table.add key (.table .implied child)
    | some (.table .inline _) => none
    | some (.table origin child) =>
      (update change path child).map fun child => table.replace key (.table origin child)
    | some (.tables children) =>
      match children.getLast? with
      | none => none
      | some child =>
        (update change path child).map fun child =>
          table.replace key (.tables (children.dropLast ++ [child]))
    | some _ => none

/-- Opens the table of a header by its last key. It may be there already as the parent of others,
but not by a header or a key of its own. -/
def openTable (key : String) (table : Table) : Option Table :=
  match table.find? key with
  | none => some (table.add key (.table .header []))
  | some (.table .implied child) => some (table.replace key (.table .header child))
  | some _ => none

/-- Opens one more of the tables that share a header, by its last key. -/
def openNext (key : String) (table : Table) : Option Table :=
  match table.find? key with
  | none => some (table.add key (.tables [[]]))
  | some (.tables children) => some (table.replace key (.tables (children ++ [[]])))
  | some _ => none

/-- Adds a value under a dotted key: the path of its parents, then its last part. The last parent
must be a table that dotted keys have made, and none of them one that a header has made. -/
def insert (key : String) (value : Value) : (path : List String) → Table → Option Table
  | [], table =>
    match table.find? key with
    | none => some (table.add key value)
    | some _ => none
  | parent :: path, table =>
    match table.find? parent with
    | none => (insert key value path []).map fun child => table.add parent (.table .dotted child)
    | some (.table .dotted child) =>
      (insert key value path child).map fun child => table.replace parent (.table .dotted child)
    | some (.table .implied child) =>
      if path.isEmpty then none
      else (insert key value path child).map fun child =>
        table.replace parent (.table .implied child)
    | some (.tables children) =>
      match path, children.getLast? with
      | _ :: _, some child =>
        (insert key value path child).map fun child =>
          table.replace parent (.tables (children.dropLast ++ [child]))
      | _, _ => none
    | some _ => none

/-- A table of pairs of a key and a value, each key given as its parents and its last part. -/
def ofPairs? (pairs : List ((List String × String) × Value)) : Option Table :=
  pairs.foldlM (fun table pair => table.insert pair.1.2 pair.2 pair.1.1) []

end Table

end SftpWire.Toml
