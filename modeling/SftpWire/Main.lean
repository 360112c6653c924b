import SftpWire.Command

/-!
The program: it reads the arguments, the file that they name and the input, and writes the answers.
-/

namespace SftpWire

/-- The content of a file, if it can be read. -/
def readFile? (path : String) : IO (Option Bytes) := do
  try
    let content ← IO.FS.readBinFile path
    return some content.toList
  catch _ => return none

/-- Runs the program. -/
def runCommand (args : List String) : IO UInt32 := do
  let file ← match args with
    | [_, path] => readFile? path
    | _ => pure none
  match Command.prepare args file with
  | .error complaint =>
    IO.eprintln complaint
    return 1
  | .ok session =>
    let stdin ← IO.getStdin
    let input ← stdin.readBinToEnd
    let result := Command.finish session input.toList
    for line in result.lines do
      IO.println line
    return result.code

end SftpWire

/-- Runs the program with the arguments of the command line. -/
def main (args : List String) : IO UInt32 :=
  SftpWire.runCommand args
