import SftpWire.Proofs.Wire.Reads

/-!
Values that go on to the end of the bytes. They are taken in a loop, one value a turn, and a peer
chooses the bytes, so it has to be said that the loop ends: `Reader.Drains` is the loop as a
relation, which relates bytes to an outcome only if the loop comes to it after finitely many turns,
and `Reader.Progresses.drains_iff` says that it always comes to the one that the reader gives. What
a row leaves to be read is read as a row of its own (`Reads.run_toEnd_append`), and from this it
follows where a row can be cut (`Reads.run_toEnd_take`).
-/

namespace SftpWire

variable {α : Type}

namespace Reader

/-- The loop that takes values until no byte is left, and what it comes to. -/
inductive Drains (reader : Reader α) : Bytes → Outcome (List α) → Prop
  | stop : Drains reader [] (.done [] [])
  | turn {bytes rest : Bytes} {value : α} {outcome : Outcome (List α)} (more : bytes ≠ [])
      (read : reader.run bytes = .done value rest) (others : Drains reader rest outcome) :
      Drains reader bytes (outcome.bind fun values last => .done (value :: values) last)
  | fail {bytes rest : Bytes} (more : bytes ≠ []) (failed : reader.run bytes = .short rest) :
      Drains reader bytes (.short rest)

/-- Every value that is read takes at least one byte. -/
def Progresses (reader : Reader α) : Prop :=
  ∀ bytes value rest, reader.run bytes = .done value rest → rest.length < bytes.length

variable {reader : Reader α} {bytes : Bytes}

/-- The loop comes to one outcome at most. -/
theorem Drains.unique {first second : Outcome (List α)} (drains : reader.Drains bytes first)
    (drains' : reader.Drains bytes second) : first = second := by
  induction drains generalizing second with
  | stop =>
    cases drains' with
    | stop => rfl
    | turn more => exact absurd rfl more
    | fail more => exact absurd rfl more
  | turn more read others ih =>
    cases drains' with
    | stop => exact absurd rfl more
    | turn _ read' others' =>
      rw [read] at read'
      cases read'
      rw [ih others']
    | fail _ failed =>
      rw [read] at failed
      cases failed
  | fail more failed =>
    cases drains' with
    | stop => exact absurd rfl more
    | turn _ read =>
      rw [failed] at read
      cases read
    | fail _ failed' =>
      rw [failed] at failed'
      cases failed'
      rfl

/-- With as many turns as there are bytes the loop comes to its end. -/
theorem Progresses.drains_untilEmpty (progresses : reader.Progresses) {bound : Nat}
    (enough : bytes.length ≤ bound) : reader.Drains bytes (reader.untilEmpty bound bytes) := by
  induction bound generalizing bytes with
  | zero =>
    obtain rfl := List.length_eq_zero_iff.1 (Nat.le_zero.1 enough)
    exact .stop
  | succ bound ih =>
    cases bytes with
    | nil => exact .stop
    | cons byte tail =>
      rw [untilEmpty_cons]
      cases read : reader.run (byte :: tail) with
      | short rest => exact .fail nofun read
      | done value rest =>
        have shorter := progresses _ _ _ read
        exact .turn nofun read (ih (by omega))

/-- The loop comes to an end on all bytes, and to the outcome that the reader gives. -/
theorem Progresses.drains_iff (progresses : reader.Progresses) {outcome : Outcome (List α)} :
    reader.Drains bytes outcome ↔ reader.toEnd.run bytes = outcome := by
  have ends : reader.Drains bytes (reader.toEnd.run bytes) :=
    progresses.drains_untilEmpty (Nat.le_refl _)
  constructor
  · intro drains
    exact ends.unique drains
  · rintro rfl
    exact ends

namespace Reads

variable {layout : Layout α}

theorem progresses (reads : reader.Reads layout) (nonempty : ∀ value, layout.write value ≠ []) :
    reader.Progresses := by
  intro bytes value rest read
  have split := ((reads ..).1 read).bytes_eq
  have written := List.length_pos_iff.2 (nonempty value)
  rw [split, List.length_append]
  omega

section

variable (reads : reader.Reads layout) (closed : layout.Closed)
  (nonempty : ∀ value, layout.write value ≠ [])

include reads closed nonempty

theorem run_toEnd_eq_done {rest : Bytes} {values : List α} :
    reader.toEnd.run bytes = .done values rest ↔
      bytes = values.flatMap layout.write ∧ rest = [] ∧ ∀ value ∈ values, layout.Fits value :=
  reads.untilEmpty_eq_done closed nonempty (Nat.le_refl _)

/-- A value in front is taken in the first turn. -/
theorem run_toEnd_write_append {value : α} (fits : layout.Fits value) (rest : Bytes) :
    reader.toEnd.run (layout.write value ++ rest) =
      (reader.toEnd.run rest).bind fun values last => .done (value :: values) last := by
  have progresses := reads.progresses nonempty
  have read : reader.run (layout.write value ++ rest) = .done value rest :=
    (reads ..).2 (closed.splits_iff.2 ⟨rfl, fits⟩)
  have more : layout.write value ++ rest ≠ [] :=
    fun none => nonempty value (List.append_eq_nil_iff.1 none).1
  exact progresses.drains_iff.1 (.turn more read (progresses.drains_iff.2 rfl))

/-- What stands behind a row is read as it would be on its own. -/
theorem run_toEnd_append {values : List α} (fit : ∀ value ∈ values, layout.Fits value)
    (rest : Bytes) :
    reader.toEnd.run (values.flatMap layout.write ++ rest) =
      (reader.toEnd.run rest).bind fun others last => .done (values ++ others) last := by
  induction values with
  | nil =>
    simp only [List.flatMap_nil, List.nil_append]
    cases reader.toEnd.run rest <;> rfl
  | cons value values ih =>
    obtain ⟨fits, fit⟩ := List.forall_mem_cons.1 fit
    rw [List.flatMap_cons, List.append_assoc,
      run_toEnd_write_append reads closed nonempty fits, ih fit, Outcome.bind_assoc]
    rfl

/-- The bytes behind a row are a row or run short. -/
theorem run_toEnd_append_cases {values : List α} (fit : ∀ value ∈ values, layout.Fits value)
    (rest : Bytes) :
    (∃ others, rest = others.flatMap layout.write ∧ (∀ value ∈ others, layout.Fits value) ∧
        reader.toEnd.run (values.flatMap layout.write ++ rest) = .done (values ++ others) []) ∨
      ∃ last, reader.toEnd.run (values.flatMap layout.write ++ rest) = .short last := by
  rw [run_toEnd_append reads closed nonempty fit]
  cases read : reader.toEnd.run rest with
  | short last => exact .inr ⟨last, rfl⟩
  | done others last =>
    obtain ⟨split, rfl, fit'⟩ := (run_toEnd_eq_done reads closed nonempty).1 read
    exact .inl ⟨others, split, fit', rfl⟩

/-- A row that is cut runs short, unless the cut is behind one of its values. -/
theorem run_toEnd_take {values : List α} (fit : ∀ value ∈ values, layout.Fits value) (k : Nat) :
    (∃ j, (values.flatMap layout.write).take k = (values.take j).flatMap layout.write) ∨
      ∃ last, reader.toEnd.run ((values.flatMap layout.write).take k) = .short last := by
  cases read : reader.toEnd.run ((values.flatMap layout.write).take k) with
  | short last => exact .inr ⟨last, rfl⟩
  | done front last =>
    obtain ⟨split, -, fit'⟩ := (run_toEnd_eq_done reads closed nonempty).1 read
    -- The values of the part are read again off the front of the whole row.
    have whole := run_toEnd_append reads closed nonempty fit' ((values.flatMap layout.write).drop k)
    rw [← split, List.take_append_drop,
      (run_toEnd_eq_done reads closed nonempty).2 ⟨rfl, rfl, fit⟩] at whole
    obtain ⟨others, rest, -, joined⟩ := Outcome.bind_eq_done.1 whole.symm
    cases joined
    exact .inl ⟨front.length, by rw [split, List.take_left]⟩

end

end Reads

end Reader

end SftpWire
