import SftpWire.Proofs.Wire.Queue

/-!
Fields in a row. A list of fields is read as values of these fields, one where the other ends, and
what can be read so are the spellings of such values in a row (`Field.run_row_eq_done`). A value has
one spelling, which is how it is written, unless it is a flag; so bytes that were read are written
again as they were, with one for every flag that is up (`Value.RowSpelled.row_eq`). Main statement:
`Queue.run_put_take`, which says so of a queue.
-/

namespace SftpWire

open Bytes

namespace Value

/-- No string is longer than the length in front of it can say. -/
def Fits : Value → Prop
  | .string text => text.length < 4294967296
  | _ => True

theorem spelled_bytes {value : Value} (fits : value.Fits) : value.Spelled value.bytes := by
  cases value with
  | flag up => exact ⟨_, rfl, by cases up <;> rfl⟩
  | string text => exact ⟨rfl, fits⟩
  | _ => rfl

/-- The bytes that values in a row are read from. -/
inductive RowSpelled : List Value → Bytes → Prop where
  | nil : RowSpelled [] []
  | cons {value : Value} {values : List Value} {front behind : Bytes}
      (spelled : value.Spelled front) (others : RowSpelled values behind) :
      RowSpelled (value :: values) (front ++ behind)

theorem rowSpelled_row {values : List Value} (fit : ∀ value ∈ values, value.Fits) :
    RowSpelled values (row values) := by
  induction values with
  | nil => exact .nil
  | cons value values ih =>
    obtain ⟨fits, fit⟩ := List.forall_mem_cons.1 fit
    exact .cons (spelled_bytes fits) (ih fit)

end Value

namespace Field

/-! ## Reading -/

/-- A row of fields is read where values of these fields are spelled. -/
theorem run_row_eq_done {fields : List Field} {bytes rest : Bytes} {values : List Value} :
    (row fields).run bytes = .done values rest ↔
      values.map Value.field = fields ∧
        ∃ front, Value.RowSpelled values front ∧ bytes = front ++ rest := by
  induction fields generalizing bytes rest values with
  | nil =>
    rw [row, Reader.run_pure, Outcome.done.injEq, List.map_eq_nil_iff]
    constructor
    · rintro ⟨rfl, rfl⟩
      exact ⟨rfl, [], .nil, rfl⟩
    · rintro ⟨rfl, _, ⟨⟩, rfl⟩
      exact ⟨rfl, rfl⟩
  | cons field fields ih =>
    simp only [row, Reader.run_bind, Reader.run_pure, Outcome.bind_eq_done, run_reader_eq_done, ih,
      Outcome.done.injEq]
    constructor
    · rintro ⟨value, _, ⟨rfl, front, spelled, rfl⟩, values, _, ⟨rfl, behind, others, rfl⟩, rfl, rfl⟩
      exact ⟨rfl, _, .cons spelled others, (List.append_assoc ..).symm⟩
    · rintro ⟨same, _, spelled, rfl⟩
      cases spelled with
      | nil => cases same
      | cons spelled others =>
        obtain ⟨rfl, rfl⟩ := List.cons_eq_cons.1 same
        exact ⟨_, _, ⟨rfl, _, spelled, List.append_assoc ..⟩, _, rest, ⟨rfl, _, others, rfl⟩, rfl,
          rfl⟩

/-! ## Writing again -/

/-- The bytes of a value with one for a flag that is up. -/
def settled : Field → Bytes → Bytes
  | .flag, bytes => bytes.map fun byte => if byte = 0 then 0 else 1
  | _, bytes => bytes

/-- The bytes of values in a row with one for every flag that is up. -/
def settle : List Field → Bytes → Bytes
  | [], bytes => bytes
  | field :: fields, bytes =>
    field.settled (bytes.take (field.needs bytes)) ++ settle fields (bytes.drop (field.needs bytes))

theorem settle_eq_self {fields : List Field} (noFlag : .flag ∉ fields) (bytes : Bytes) :
    settle fields bytes = bytes := by
  induction fields generalizing bytes with
  | nil => rfl
  | cons field fields ih =>
    rw [List.mem_cons, not_or] at noFlag
    have same (front : Bytes) : field.settled front = front := by
      cases field with
      | flag => exact absurd rfl noFlag.1
      | _ => rfl
    rw [settle, ih noFlag.2, same, List.take_append_drop]

end Field

namespace Value

variable {value : Value} {values : List Value} {front behind : Bytes}

/-- What a value is read from is as long as its field says. -/
theorem Spelled.needs_eq (spelled : value.Spelled front) (behind : Bytes) :
    value.field.needs (front ++ behind) = front.length := by
  cases value with
  | byte | word16 | word32 | word64 =>
    subst spelled
    simp [field, Field.needs, Value.bytes]
  | flag =>
    obtain ⟨byte, rfl, -⟩ := spelled
    rfl
  | string text =>
    obtain ⟨rfl, small⟩ := spelled
    rw [field, Field.needs, ofString_eq small, List.append_assoc, value_take_ofWord32_append,
      UInt32.toNat_ofNat_of_lt' small, List.length_append, length_ofWord32]

theorem Spelled.bytes_eq (spelled : value.Spelled front) :
    value.bytes = value.field.settled front := by
  cases value with
  | flag up =>
    obtain ⟨byte, rfl, rfl⟩ := spelled
    by_cases zero : byte = 0 <;> simp [Value.bytes, ofFlag, field, Field.settled, zero]
  | string text => exact spelled.1.symm
  | _ => exact spelled.symm

/-- Values that were read are written as what they were read from, but for their flags. -/
theorem RowSpelled.row_eq (spelled : RowSpelled values front) :
    row values = Field.settle (values.map field) front := by
  induction spelled with
  | nil => rfl
  | cons spelled others ih =>
    rw [List.map_cons, Field.settle, spelled.needs_eq, List.take_left, List.drop_left,
      ← spelled.bytes_eq, ← ih]
    rfl

end Value

namespace Queue

/-! ## On a queue -/

theorem run_append (steps more : List Step) (queue : Bytes) :
    run (steps ++ more) queue =
      ((run steps queue).1 ++ (run more (run steps queue).2).1,
        (run more (run steps queue).2).2) := by
  induction steps generalizing queue with
  | nil => rfl
  | cons step steps ih => simp only [List.cons_append, run, ih]

theorem run_put (values : List Value) (queue : Bytes) :
    run (values.map .put) queue =
      (List.replicate values.length .nothing, queue ++ Value.row values) := by
  induction values generalizing queue with
  | nil => simp [run, Value.row]
  | cons value values ih =>
    simp only [List.map_cons, run, Step.run, ih, List.append_assoc]
    rfl

/-- Values are taken in turn where the row of their fields is read. -/
theorem run_take_eq_iff {fields : List Field} {queue rest : Bytes} {values : List Value} :
    run (fields.map .take) queue = (values.map .value, rest) ↔
      (Field.row fields).run queue = .done values rest := by
  induction fields generalizing queue values with
  | nil => cases values <;> simp [run, Field.row]
  | cons field fields ih =>
    simp only [Field.row, Reader.run_bind, Reader.run_pure, List.map_cons, run, Step.run, read]
    cases field.reader.run queue with
    | short left => cases values <;> simp
    | done value left =>
      have others (values : List Value) := @ih left values
      simp only [Prod.ext_iff] at others
      cases values with
      | nil => simp [Outcome.bind_eq_done]
      | cons first values =>
        simp only [List.map_cons, Prod.mk.injEq, List.cons.injEq, Answer.value.injEq, and_assoc,
          others, Outcome.bind_done, Outcome.bind_eq_done, Outcome.done.injEq]
        constructor
        · rintro ⟨rfl, read⟩
          exact ⟨values, rest, read, rfl, rfl, rfl⟩
        · rintro ⟨_, _, read, rfl, rfl, rfl⟩
          exact ⟨rfl, read⟩

/-- Values that are put into an empty queue are what is taken out of it by their fields, and what
is put behind them is left. The other way round, what fields take is put back as it was, but that
every flag that is up is put back as one; where no field is a flag it is put back unchanged. -/
theorem run_put_take :
    (∀ (values : List Value) (rest : Bytes), (∀ value ∈ values, value.Fits) →
      run (values.map .put ++ .putRaw rest :: values.map fun value => .take value.field) [] =
        (List.replicate (values.length + 1) .nothing ++ values.map .value, rest)) ∧
    ∀ (fields : List Field) (queue rest : Bytes) (values : List Value),
      run (fields.map .take) queue = (values.map .value, rest) →
        values.map Value.field = fields ∧
        ∃ front, queue = front ++ rest ∧
          run (values.map .put) [] =
            (List.replicate values.length .nothing, Field.settle fields front) ∧
          (.flag ∉ fields →
            run (values.map .put) [] = (List.replicate values.length .nothing, front)) := by
  constructor
  · intro values rest fit
    have read : (Field.row (values.map Value.field)).run (Value.row values ++ rest) =
        .done values rest :=
      Field.run_row_eq_done.2 ⟨rfl, _, Value.rowSpelled_row fit, rfl⟩
    have taken := run_take_eq_iff.2 read
    rw [List.map_map, Function.comp_def] at taken
    have filled : run [.putRaw rest] (Value.row values) = ([.nothing], Value.row values ++ rest) :=
      rfl
    rw [List.append_cons, run_append, run_append, run_put, List.nil_append, filled,
      List.replicate_succ', taken]
  · intro fields queue rest values taken
    obtain ⟨rfl, front, spelled, rfl⟩ := Field.run_row_eq_done.1 (run_take_eq_iff.1 taken)
    refine ⟨rfl, front, rfl, ?_, fun noFlag => ?_⟩
    · rw [run_put, List.nil_append, spelled.row_eq]
    · rw [run_put, List.nil_append, spelled.row_eq, Field.settle_eq_self noFlag]

/-- A value of each field with three bytes behind them, and a flag of seven that comes back as
one. -/
theorem run_put_take_sample :
    run [.put (.byte 9), .put (.flag true), .put (.word16 258), .put (.word32 7),
        .put (.word64 8), .put (.string [0xFF, 0]), .putRaw [1, 2, 3], .take .byte, .take .flag,
        .take .word16, .take .word32, .take .word64, .take .string] [] =
      ([.nothing, .nothing, .nothing, .nothing, .nothing, .nothing, .nothing, .value (.byte 9),
        .value (.flag true), .value (.word16 258), .value (.word32 7), .value (.word64 8),
        .value (.string [0xFF, 0])], [1, 2, 3]) ∧
    run [.take .byte, .take .flag] [7, 7, 7] = ([.value (.byte 7), .value (.flag true)], [7]) ∧
      Field.settle [.byte, .flag] [7, 7] = [7, 1] ∧
      run [.put (.byte 7), .put (.flag true)] [] = ([.nothing, .nothing], [7, 1]) ∧
    run [.put (.byte 7)] [] = ([.nothing], [7]) := by
  have fit : ∀ value ∈ [Value.byte 9, .flag true, .word16 258, .word32 7, .word64 8,
      .string [0xFF, 0]], value.Fits := by
    simp [Value.Fits]
  obtain ⟨forth, back⟩ := run_put_take
  obtain ⟨-, front, split, flagged, -⟩ := back [.byte, .flag] [7, 7, 7] [7]
    [.byte 7, .flag true] rfl
  obtain ⟨-, front', split', -, unflagged⟩ := back [.byte] [7, 7] [7] [.byte 7] rfl
  have isFront := List.append_cancel_right (show [7, 7] ++ [7] = front ++ [7] from split)
  have isFront' := List.append_cancel_right (show [7] ++ [7] = front' ++ [7] from split')
  subst isFront isFront'
  exact ⟨forth _ [1, 2, 3] fit, rfl, rfl, flagged, unflagged (by decide)⟩

end Queue

end SftpWire
