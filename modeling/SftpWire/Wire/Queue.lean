import SftpWire.Wire.Field

/-!
A byte queue in use: values are taken off the front and put at the back, in any order. A step that
fails leaves what its read left, and the steps after it go on from there.
-/

namespace SftpWire

namespace Queue

/-- One use of the queue. -/
inductive Step where
  | take (field : Field)
  | takeRaw (n : Nat)
  | takeAll
  /-- Takes a string, over the old content of `destination`. -/
  | takeInto (destination : Bytes)
  | put (value : Value)
  /-- Puts bytes at the back, with no length before them. -/
  | putRaw (bytes : Bytes)
  deriving DecidableEq, Repr

/-- What a step gives. -/
inductive Answer where
  | value (value : Value)
  /-- The bytes taken, with no length before them. -/
  | bytes (bytes : Bytes)
  | nothing
  | short
  deriving DecidableEq, Repr

/-- Reads off the front of the queue. -/
def read {α : Type} (reader : Reader α) (answer : α → Answer) (queue : Bytes) : Answer × Bytes :=
  match reader.run queue with
  | .done value rest => (answer value, rest)
  | .short rest => (.short, rest)

/-- Takes one step. -/
def Step.run (step : Step) (queue : Bytes) : Answer × Bytes :=
  match step with
  | .take field => read field.reader .value queue
  | .takeRaw n => read (Reader.raw n) .bytes queue
  | .takeAll => read Reader.remaining .bytes queue
  | .takeInto destination =>
    read (Reader.stringInto destination) (fun bytes => .value (.string bytes)) queue
  | .put value => (.nothing, queue ++ value.bytes)
  | .putRaw bytes => (.nothing, queue ++ bytes)

/-- Takes steps in turn: the answer of each and the queue after the last. -/
def run : List Step → Bytes → List Answer × Bytes
  | [], queue => ([], queue)
  | step :: steps, queue =>
    let (answer, next) := step.run queue
    let (answers, last) := run steps next
    (answer :: answers, last)

end Queue

end SftpWire
