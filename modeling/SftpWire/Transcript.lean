import SftpWire.Limits
import SftpWire.Packet.Response
import SftpWire.Text.Blank

/-!
Transcripts: packets written down in hexadecimal, one on a line, and what they are. Each line is
taken by itself. Empty lines and lines that begin with `#` are passed over, but they count where
lines are numbered.
-/

namespace SftpWire.Transcript

/-- How packets are to be taken, and how they are shown. -/
structure Session where
  side : Side
  limits : Limits := {}
  registry : Registry := .initial
  /-- The characters that are escaped by number where text is quoted. -/
  hidden : Char → Bool := Quoted.isHidden

/-- What is said about a wrong digit. -/
def complaint (hidden : Char → Bool) : Hex.Fault → String
  | .oddLength => "invalid hex: Odd number of digits"
  | .notDigit byte index =>
    let character := Quoted.singleBy hidden (Char.ofNat byte.toNat)
    "invalid hex: Invalid character " ++ String.ofList character ++ s!" at position {index}"

/-- A packet that was read, or why it could not be. -/
def outcome {α : Type} (shape : α → String) : Except Fault (Message α) → String
  | .ok message => s!"id={message.id.toNat} " ++ shape message.packet
  | .error fault => fault.message

/-- What the bytes of a packet are. -/
def describe (session : Session) (bytes : Bytes) : String :=
  if session.limits.maxPacketLength.toNat < bytes.length - 4 then
    s!"frame of {bytes.length} bytes exceeds max_packet_length " ++
      toString session.limits.maxPacketLength.toNat
  else
    match session.side with
    | .client =>
      outcome (Request.shape session.hidden) (Request.decode session.registry bytes)
    | .server => outcome (Response.shape session.hidden) (Response.decode bytes)

/-- What is said about a line, if anything is. -/
def answer? (session : Session) (number : Nat) (line : List Char) : Option String :=
  let content := Blank.trim line
  if content.isEmpty || content.head? == some '#' then none
  else
    some <| s!"{number}: " ++
      match Hex.decode (Utf8.encode content) with
      | .error fault => complaint session.hidden fault
      | .ok bytes => describe session bytes

/-- What is said about lines, the first of which has the given number. -/
def answersFrom (session : Session) (first : Nat) (lines : List (List Char)) : List String :=
  (lines.zipIdx first).filterMap fun (line, number) => answer? session number line

def answers (session : Session) (lines : List (List Char)) : List String :=
  answersFrom session 1 lines

/-- The lines of an input. The last may lack its end. -/
def lines (input : Bytes) : List Bytes :=
  let pieces := input.splitOn 0x0A
  if pieces.getLast? = some [] then pieces.dropLast else pieces

/-- What comes of an input: the answers, and whether all of it was text. -/
structure Report where
  answers : List String
  /-- Whether the input was read to its end. -/
  complete : Bool
  deriving DecidableEq, Repr

/-- Answers the lines of an input up to the first that is no text. -/
def run (session : Session) (input : Bytes) : Report :=
  let texts := (lines input).map Utf8.decode?
  { answers := answers session ((texts.takeWhile Option.isSome).filterMap id)
    complete := texts.all Option.isSome }

end SftpWire.Transcript
