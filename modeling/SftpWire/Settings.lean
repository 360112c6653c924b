import SftpWire.Limits
import SftpWire.Toml.Document

/-!
Limits from a settings document. They stand in the table `codec` under their names, or in an array
of that name in their order; what is not given is as usual, and whatever else the document says is
passed over.
-/

namespace SftpWire.Settings

/-- The word that a value is. -/
def word? : Toml.Value → Option UInt32
  | .integer n => if 0 ≤ n ∧ n < 4294967296 then some (UInt32.ofNat n.toNat) else none
  | _ => none

/-- The word of a key; nothing if the key is not there. -/
def field? (key : String) (table : Toml.Table) : Option (Option UInt32) :=
  match table.find? key with
  | none => some none
  | some value => (word? value).map some

/-- The limits that the value of `codec` gives. A date or a time gives none of them. -/
def ofValue? : Toml.Value → Option Limits
  | .table _ entries => do
    let packet ← field? "max_packet_length" entries
    let data ← field? "max_data_length" entries
    return Limits.ofOptions packet data
  | .array [] => some {}
  | .array [packet] => do
    let packet ← word? packet
    return Limits.ofOptions (some packet) none
  | .array [packet, data] => do
    let packet ← word? packet
    let data ← word? data
    return Limits.ofOptions (some packet) (some data)
  | .moment _ => some {}
  | _ => none

/-- The limits that a document gives, valid or not. -/
def ofDocument? (document : Toml.Table) : Option Limits :=
  match document.find? "codec" with
  | none => some {}
  | some value => ofValue? value

/-- What takes texts for documents. -/
structure Parser where
  parse? : String → Option Toml.Table
  /-- What is said about a text that is no document, or a document that gives no limits. -/
  complaint : String → String

/-- The limits of a text, if it is a document and the limits are valid. -/
def limitsBy (parser : Parser) (text : String) : Except LimitsFault Limits :=
  match (parser.parse? text).bind ofDocument? with
  | none => .error (.invalidDocument (parser.complaint text))
  | some limits => limits.check

/-- The parser that is here, which says the same about every text that it does not take. -/
def parser : Parser where
  parse? := Toml.parse?
  complaint _ := "invalid TOML"

def limits : String → Except LimitsFault Limits :=
  limitsBy parser

end SftpWire.Settings
