import SftpWire.Proofs.Wire.Reads
import SftpWire.Wire.Field

/-!
Fields one at a time. What bytes a value is read from is a relation and not a function, since every
byte but zero is the flag that is up (`Value.Spelled`). What bytes a value is written as is said by
what these are worth (`Value.Written`). Main statements: `Value.written_iff`,
`Field.run_reader_eq_done` and `Field.run_reader_eq_short`, which say of every kind of field what is
written, what a read gives and what it leaves, and when it runs short.
-/

namespace SftpWire

/-- The bytes that a value is read from. -/
def Value.Spelled : Value → Bytes → Prop
  | .flag up, bytes => ∃ byte, bytes = [byte] ∧ up = (byte != 0)
  | .string text, bytes => bytes = Bytes.ofString text ∧ text.length < 4294967296
  | value, bytes => bytes = value.bytes

/-! ## Writing -/

/-- So many bytes that stand for a number, the most significant first. -/
def Bytes.Worth (width n : Nat) (bytes : Bytes) : Prop :=
  bytes.length = width ∧ value bytes = n

theorem Bytes.worth_iff {width n : Nat} {bytes : Bytes} (small : n < Nat.pow 256 width) :
    Worth width n bytes ↔ bytes = bigEndian width n := by
  constructor
  · rintro ⟨rfl, rfl⟩
    exact (bigEndian_value bytes).symm
  · rintro rfl
    exact ⟨length_bigEndian width n, value_bigEndian width n small⟩

/-- The bytes that a value is written as: those of a number in the width of its field, and for a
string its length and then the string, as far as it can be counted. -/
def Value.Written : Value → Bytes → Prop
  | .byte v, bytes => Bytes.Worth 1 v.toNat bytes
  | .flag up, bytes => Bytes.Worth 1 up.toNat bytes
  | .word16 v, bytes => Bytes.Worth 2 v.toNat bytes
  | .word32 v, bytes => Bytes.Worth 4 v.toNat bytes
  | .word64 v, bytes => Bytes.Worth 8 v.toNat bytes
  | .string text, bytes =>
    ∃ length content, bytes = length ++ content ∧ Bytes.Worth 4 content.length length ∧
      content = text.take 4294967295

theorem Value.written_string_iff {text bytes : Bytes} :
    (Value.string text).Written bytes ↔ bytes = Bytes.ofString text := by
  have counted : (Bytes.lengthWord text.length).toNat = (text.take 4294967295).length := by
    rw [Bytes.toNat_lengthWord, List.length_take, Nat.min_comm]
  have kept : text.take (Bytes.lengthWord text.length).toNat = text.take 4294967295 := by
    rw [Bytes.toNat_lengthWord, List.take_eq_take_iff]
    omega
  have small : (text.take 4294967295).length < Nat.pow 256 4 := by
    rw [← counted]
    exact (Bytes.lengthWord text.length).toNat_lt
  rw [Bytes.ofString, kept, Bytes.ofWord32, counted]
  constructor
  · rintro ⟨length, content, rfl, isLength, rfl⟩
    rw [(Bytes.worth_iff small).1 isLength]
  · rintro rfl
    exact ⟨_, _, rfl, (Bytes.worth_iff small).2 rfl, rfl⟩

/-- There is one way to write a value. -/
theorem Value.written_iff {value : Value} {bytes : Bytes} :
    value.Written bytes ↔ bytes = value.bytes := by
  cases value with
  | byte v => exact (Bytes.worth_iff v.toNat_lt).trans (by simp [Bytes.bigEndian, Value.bytes])
  | flag up =>
    cases up
    all_goals exact Bytes.worth_iff (by decide)
  | word16 v => exact Bytes.worth_iff v.toNat_lt
  | word32 v => exact Bytes.worth_iff v.toNat_lt
  | word64 v => exact Bytes.worth_iff v.toNat_lt
  | string text => exact written_string_iff

/-! ## Reading -/

namespace Reader

open Bytes

variable {α β : Type} {make : α → β} {reader : Reader α} {bytes rest : Bytes}

theorem run_make_eq_done {value : β} :
    (make <$> reader).run bytes = .done value rest ↔
      ∃ part, reader.run bytes = .done part rest ∧ make part = value := by
  rw [run_map, Outcome.bind_eq_done]
  constructor
  · rintro ⟨part, last, read, made⟩
    cases made
    exact ⟨part, read, rfl⟩
  · rintro ⟨part, read, rfl⟩
    exact ⟨part, rest, read, rfl⟩

theorem run_make_eq_short :
    (make <$> reader).run bytes = .short rest ↔ reader.run bytes = .short rest := by
  rw [run_map, Outcome.bind_eq_short]
  simp

theorem run_byte_eq_short : byte.run bytes = .short rest ↔ bytes.length < 1 ∧ rest = bytes := by
  cases bytes <;> simp [byte, eq_comm]

/-- A string that runs short has taken its length, unless that was not there. -/
theorem run_string_eq_short :
    string.run bytes = .short rest ↔
      bytes.length < 4 + value (bytes.take 4) ∧
        rest = bytes.drop (if bytes.length < 4 then 0 else 4) := by
  by_cases few : bytes.length < 4
  · have read : string.run bytes = .short bytes := by
      rw [string, run_bind, run_word32_eq_short.2 ⟨few, rfl⟩, Outcome.bind_short]
    rw [read, if_pos few, List.drop_zero, Outcome.short.injEq]
    exact ⟨fun same => ⟨by omega, same.symm⟩, fun short => short.2.symm⟩
  · obtain ⟨length, behind, rfl⟩ := exists_word32_append (Nat.le_of_not_lt few)
    have four := length_ofWord32 length
    have behind_eq : (ofWord32 length ++ behind).drop 4 = behind := by
      rw [← four, List.drop_left]
    rw [string, run_bind, run_word32_ofWord32, Outcome.bind_done, run_raw_eq_short, if_neg few,
      value_take_ofWord32_append, behind_eq, List.length_append, four, Nat.add_lt_add_iff_left]

end Reader

namespace Field

open Bytes

/-- How many bytes must be there for a value to be read. -/
def needs : Field → Bytes → Nat
  | .byte, _ => 1
  | .flag, _ => 1
  | .word16, _ => 2
  | .word32, _ => 4
  | .word64, _ => 8
  | .string, bytes => 4 + value (bytes.take 4)

/-- How many bytes a read that runs short has taken all the same. -/
def lost : Field → Bytes → Nat
  | .string, bytes => if bytes.length < 4 then 0 else 4
  | _, _ => 0

variable {field : Field} {bytes rest : Bytes} {value : Value}

/-- A field is read where one of its values is spelled, if its parts are read where they are. -/
theorem run_make_eq_done_iff {α : Type} {make : α → Value} {reader : Reader α}
    (made : ∀ value, Value.field value = field ↔ ∃ part, make part = value)
    (reads : ∀ part, reader.run bytes = .done part rest ↔
      ∃ front, (make part).Spelled front ∧ bytes = front ++ rest) :
    (make <$> reader).run bytes = .done value rest ↔
      value.field = field ∧ ∃ front, value.Spelled front ∧ bytes = front ++ rest := by
  rw [Reader.run_make_eq_done, made]
  constructor
  · rintro ⟨part, read, rfl⟩
    exact ⟨⟨part, rfl⟩, (reads part).1 read⟩
  · rintro ⟨⟨part, rfl⟩, spelled⟩
    exact ⟨part, (reads part).2 spelled, rfl⟩

theorem run_reader_eq_done :
    field.reader.run bytes = .done value rest ↔
      value.field = field ∧ ∃ front, value.Spelled front ∧ bytes = front ++ rest := by
  cases field
  all_goals
    refine run_make_eq_done_iff (fun value => by cases value <;> simp [Value.field]) fun part => ?_
  case byte => simp [Reader.run_byte_eq_done, Value.Spelled, Value.bytes]
  case flag =>
    rw [Reader.flag, Reader.run_make_eq_done]
    simp only [Reader.run_byte_eq_done]
    constructor
    · rintro ⟨byte, rfl, rfl⟩
      exact ⟨[byte], ⟨byte, rfl, rfl⟩, rfl⟩
    · rintro ⟨_, ⟨byte, rfl, rfl⟩, rfl⟩
      exact ⟨byte, rfl, rfl⟩
  case word16 => simp [Reader.run_word16_eq_done, Value.Spelled, Value.bytes]
  case word32 => simp [Reader.run_word32_eq_done, Value.Spelled, Value.bytes]
  case word64 => simp [Reader.run_word64_eq_done, Value.Spelled, Value.bytes]
  case string =>
    rw [Reader.run_string_eq_done]
    constructor
    · rintro ⟨split, small⟩
      exact ⟨Bytes.ofString part, ⟨rfl, small⟩, split⟩
    · rintro ⟨_, ⟨rfl, small⟩, split⟩
      exact ⟨split, small⟩

theorem run_reader_eq_short :
    field.reader.run bytes = .short rest ↔
      bytes.length < field.needs bytes ∧ rest = bytes.drop (field.lost bytes) := by
  cases field with
  | byte => exact Reader.run_make_eq_short.trans Reader.run_byte_eq_short
  | flag =>
    exact Reader.run_make_eq_short.trans (Reader.run_make_eq_short.trans Reader.run_byte_eq_short)
  | word16 =>
    exact Reader.run_make_eq_short.trans (Reader.run_make_eq_short.trans Reader.run_raw_eq_short)
  | word32 =>
    exact Reader.run_make_eq_short.trans (Reader.run_make_eq_short.trans Reader.run_raw_eq_short)
  | word64 =>
    exact Reader.run_make_eq_short.trans (Reader.run_make_eq_short.trans Reader.run_raw_eq_short)
  | string => exact Reader.run_make_eq_short.trans Reader.run_string_eq_short

end Field

end SftpWire
