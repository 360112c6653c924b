import SftpWire.Status.Code
import SftpWire.Text.Shape
import SftpWire.Wire.Primitive

/-!
Status reports: the packet by which a server says how a request went, which is also the form in
which a failure is passed on. A report holds a code, a message and the tag of the message's
language.
-/

namespace SftpWire

/-- A status report. -/
structure Status where
  code : StatusCode
  message : Bytes
  language : Bytes
  deriving Repr

namespace Status

/-- Reports are equal when codes, by value, messages and languages are. -/
instance : BEq Status :=
  ⟨fun a b => a.code == b.code && a.message == b.message && a.language == b.language⟩

def blank : Status :=
  { code := .ok, message := [], language := [] }

/-- The language of the messages made here. -/
def english : Bytes :=
  Utf8.ofString "en"

/-- A code with an English message. -/
def say (code : StatusCode) (message : Bytes) : Status :=
  { code, message, language := english }

/-- The report of a message that makes no sense. -/
def badMessage (message : Bytes) : Status :=
  say .badMessage message

/-- The report of a system failure. -/
def ofIoFailure (failure : IoFailure) : Status :=
  say (.ofIoKind failure.kind) (Utf8.ofString failure.text)

def isOk (status : Status) : Bool :=
  status.code == StatusCode.ok

/-- Whether a report has a code, whatever else it says. -/
def hasCode (status : Status) (code : StatusCode) : Bool :=
  status.code == code

/-- Whether a code is that of a report, asked of the code. -/
def isCodeOf (code : StatusCode) (status : Status) : Bool :=
  code == status.code

/-- Success gives nothing, and any other report is the failure. -/
def check (status : Status) : Except Status Unit :=
  if status.isOk then .ok () else .error status

/-- A report on one line: the code and, if there is one, the message. -/
def display (status : Status) : String :=
  let head := "sftp: " ++ status.code.display
  if status.message.isEmpty then head
  else head ++ ": " ++ Utf8.toStringLossy status.message

/-- A report as a failure of the system; a code that stands for none of its kinds is `other`. -/
def toIoFailure (status : Status) : IoFailure :=
  { kind := status.code.ioKind?.getD .other, text := status.display }

/-- Whether the code of a report stands for the given kind of system failure. -/
def isKind (status : Status) (kind : IoKind) : Bool :=
  status.code.isKind kind

def bytes (status : Status) : Bytes :=
  Bytes.ofWord32 status.code.value ++ Bytes.ofString status.message ++
    Bytes.ofString status.language

def size (status : Status) : Nat :=
  4 + (4 + status.message.length) + (4 + status.language.length)

def reader : Reader Status := do
  let value ← Reader.word32
  let message ← Reader.string
  let language ← Reader.string
  return { code := .ofValue value, message, language }

/-- A report with all its fields, by the tables that are here if no other class is given. -/
def shape (hidden : Char → Bool := Quoted.isHidden) (status : Status) : String :=
  Shape.record "StatusPacket"
    [("status_code", status.code.title), ("error_message", Shape.string hidden status.message),
     ("language_tag", Shape.string hidden status.language)]

end Status

end SftpWire
