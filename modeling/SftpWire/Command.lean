import SftpWire.Failure
import SftpWire.Settings
import SftpWire.Transcript

/-!
The command line: who sends the packets, and optionally a file with the limits. The limits are
looked at before any input is, and wrong ones end the run.
-/

namespace SftpWire.Command

/-- What a run leaves behind. -/
structure Result where
  code : UInt32
  lines : List String
  deriving DecidableEq, Repr

/-- How the program is used. -/
def usage : String :=
  "Usage: sftpwire <request|response> [limits.toml] < packets.hex"

/-- The side whose packets are called by a name. -/
def side? : String → Option Side
  | "request" => some .client
  | "response" => some .server
  | _ => none

/-- The limits in a file, given by its content if it could be read. -/
def limitsOf : Option Bytes → Except String Limits
  | none => .error "the configuration cannot be read"
  | some content =>
    match Utf8.decode? content with
    | none => .error "the configuration is not text"
    | some text =>
      (Settings.limits (String.ofList text)).mapError fun fault => (Failure.config fault).message

/-- What is to be done, or why nothing is. The file is the one that the second argument names. The
characters that are escaped by number are those of the tables that are here, if no others are
given. -/
def prepare (args : List String) (file : Option Bytes)
    (hidden : Char → Bool := Quoted.isHidden) : Except String Transcript.Session :=
  match args with
  | [name] =>
    match side? name with
    | some side => .ok { side, hidden }
    | none => .error usage
  | [name, _] =>
    match side? name with
    | some side => do
      let limits ← limitsOf file
      return { side, limits, hidden }
    | none => .error usage
  | _ => .error usage

/-- What a prepared run leaves behind. -/
def finish (session : Transcript.Session) (input : Bytes) : Result :=
  let report := Transcript.run session input
  { code := if report.complete then 0 else 1, lines := report.answers }

/-- What a run leaves behind. -/
def run (args : List String) (file : Option Bytes) (input : Bytes)
    (hidden : Char → Bool := Quoted.isHidden) : Result :=
  match prepare args file hidden with
  | .error _ => { code := 1, lines := [] }
  | .ok session => finish session input

end SftpWire.Command
