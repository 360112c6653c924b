import SftpWire.Wire.Bytes

/-!
Readers: programs that take a value off the front of a byte string. A reader fails in one way only,
by running short, and it then says what it left unread. Readers compose as a monad, so that a
failure in the middle keeps what the parts before it have taken. Main statements: `run_bind` and
`bind_eq_done`, which take a composed read apart.
-/

namespace SftpWire

/-- What a read came to. -/
inductive Outcome (α : Type) where
  | done (value : α) (rest : Bytes)
  /-- The bytes ran out; `rest` is what the failing read left. -/
  | short (rest : Bytes)
  deriving DecidableEq

namespace Outcome

variable {α β : Type}

/-- Goes on with the value and what follows it; a short read stays short. -/
protected def bind (outcome : Outcome α) (next : α → Bytes → Outcome β) : Outcome β :=
  match outcome with
  | .done value rest => next value rest
  | .short rest => .short rest

/-- The value read, if one was. -/
def value? : Outcome α → Option α
  | .done value _ => some value
  | .short _ => none

/-- What is left unread. -/
def rest : Outcome α → Bytes
  | .done _ rest => rest
  | .short rest => rest

@[simp] theorem bind_done (value : α) (rest : Bytes) (next : α → Bytes → Outcome β) :
    (Outcome.done value rest).bind next = next value rest := rfl

@[simp] theorem bind_short (rest : Bytes) (next : α → Bytes → Outcome β) :
    (Outcome.short rest).bind next = .short rest := rfl

theorem bind_assoc {γ : Type} (outcome : Outcome α) (next : α → Bytes → Outcome β)
    (last : β → Bytes → Outcome γ) :
    (outcome.bind next).bind last = outcome.bind fun value rest => (next value rest).bind last := by
  cases outcome <;> rfl

theorem bind_eq_done {outcome : Outcome α} {next : α → Bytes → Outcome β} {value : β}
    {last : Bytes} :
    outcome.bind next = .done value last ↔
      ∃ first middle, outcome = .done first middle ∧ next first middle = .done value last := by
  cases outcome <;> simp [and_assoc]

theorem bind_eq_short {outcome : Outcome α} {next : α → Bytes → Outcome β} {last : Bytes} :
    outcome.bind next = .short last ↔
      outcome = .short last ∨
        ∃ first middle, outcome = .done first middle ∧ next first middle = .short last := by
  cases outcome <;> simp [and_assoc]

end Outcome

/-- A program that reads a value off the front of a byte string. -/
structure Reader (α : Type) where
  run : Bytes → Outcome α

namespace Reader

variable {α β : Type}

instance : Monad Reader where
  pure value := ⟨fun bytes => .done value bytes⟩
  bind reader next := ⟨fun bytes => (reader.run bytes).bind fun value rest => (next value).run rest⟩

@[simp] theorem run_pure (value : α) (bytes : Bytes) :
    (pure value : Reader α).run bytes = .done value bytes := rfl

@[simp] theorem run_bind (reader : Reader α) (next : α → Reader β) (bytes : Bytes) :
    (reader >>= next).run bytes =
      (reader.run bytes).bind fun value rest => (next value).run rest := rfl

@[simp] theorem run_map (f : α → β) (reader : Reader α) (bytes : Bytes) :
    (f <$> reader).run bytes = (reader.run bytes).bind fun value rest => .done (f value) rest := rfl

def times (reader : Reader α) : (n : Nat) → Bytes → Outcome (List α)
  | 0, bytes => .done [] bytes
  | n + 1, bytes =>
    match reader.run bytes with
    | .short rest => .short rest
    | .done value rest =>
      match times reader n rest with
      | .short last => .short last
      | .done values last => .done (value :: values) last

/-- Reads values until no byte is left, at most `bound` of them. -/
def untilEmpty (reader : Reader α) : (bound : Nat) → Bytes → Outcome (List α)
  | _, [] => .done [] []
  | 0, bytes => .short bytes
  | bound + 1, bytes =>
    match reader.run bytes with
    | .short rest => .short rest
    | .done value rest =>
      match untilEmpty reader bound rest with
      | .short last => .short last
      | .done values last => .done (value :: values) last

/-- Reads `n` values in a row. A count that a peer has made up fails at the first value that is
not there. -/
def replicate (n : Nat) (reader : Reader α) : Reader (List α) :=
  ⟨reader.times n⟩

/-- Reads values to the end of the bytes. There are never more values than bytes, since every value
takes at least one. -/
def toEnd (reader : Reader α) : Reader (List α) :=
  ⟨fun bytes => reader.untilEmpty bytes.length bytes⟩

end Reader

end SftpWire
