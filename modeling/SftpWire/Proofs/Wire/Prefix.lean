import SftpWire.Proofs.Wire.Reads

/-!
Values cut short. A reader that has read a value reads the same value when more bytes follow, so on
a part of what was written it cannot have read another one: it runs short
(`Reads.run_eq_short_of_isPrefix`). The one exception are values that go on to the end of the bytes,
for these are read from a part as well; `Layout.Delimits` says that none of them is in the way.
-/

namespace SftpWire

/-- A string says where it ends, whatever follows it. -/
theorem Bytes.ofString_append_inj {text text' rest rest' : Bytes}
    (small : text.length < 4294967296) (small' : text'.length < 4294967296)
    (same : ofString text ++ rest = ofString text' ++ rest') : text = text' ∧ rest = rest' := by
  have read := Reader.run_string_ofString small rest
  rw [same, Reader.run_string_ofString small'] at read
  simp only [Outcome.done.injEq] at read
  exact ⟨read.1.symm, read.2.symm⟩

variable {α : Type}

namespace Layout

variable {layout : Layout α} {bytes rest : Bytes} {value : α}

/-- No value that goes on to the end is written as a strict part of this one. -/
def Delimits (layout : Layout α) (value : α) : Prop :=
  ∀ other, layout.Fits other → layout.write other <+: layout.write value →
    layout.write other ≠ layout.write value → ¬ layout.ToEnd other

/-- The values of a layout for which a condition holds. -/
def only (layout : Layout α) (condition : α → Prop) : Layout α where
  write := layout.write
  Fits value := condition value ∧ layout.Fits value
  ToEnd := layout.ToEnd

theorem Closed.delimits (closed : layout.Closed) (value : α) : layout.Delimits value :=
  fun other _ _ _ => closed other

/-- It is only what is written of a value that matters here. -/
theorem Delimits.of_write_eq (delimits : layout.Delimits value) {other : α}
    (same : layout.write other = layout.write value) : layout.Delimits other := by
  intro third fits front shorter
  rw [same] at front shorter
  exact delimits third fits front shorter

theorem only_splits_iff {condition : α → Prop} :
    (layout.only condition).Splits bytes value rest ↔
      condition value ∧ layout.Splits bytes value rest := by
  constructor
  · intro splits
    rcases splits with ⟨split, ⟨holds, fits⟩, last⟩
    exact ⟨holds, split, fits, last⟩
  · intro written
    rcases written with ⟨holds, split, fits, last⟩
    exact ⟨split, ⟨holds, fits⟩, last⟩

/-- A value in front stays in front when bytes are added behind it. -/
theorem Splits.append (splits : layout.Splits bytes value rest) (stops : ¬ layout.ToEnd value)
    (more : Bytes) : layout.Splits (bytes ++ more) value (rest ++ more) := by
  have split : bytes ++ more = layout.write value ++ (rest ++ more) := by
    rw [splits.bytes_eq, List.append_assoc]
  exact ⟨split, splits.fits, fun toEnd => absurd toEnd stops⟩

end Layout

namespace Reader.Reads

variable {reader : Reader α} {layout : Layout α} {bytes rest : Bytes} {value : α}

theorem run_append (reads : reader.Reads layout) (run : reader.run bytes = .done value rest)
    (stops : ¬ layout.ToEnd value) (more : Bytes) :
    reader.run (bytes ++ more) = .done value (rest ++ more) := by
  have splits := (reads ..).1 run
  exact (reads ..).2 (splits.append stops more)

/-- A strict part of the bytes of a value runs short. -/
theorem run_eq_short_of_isPrefix (reads : reader.Reads layout) (fits : layout.Fits value)
    (delimits : layout.Delimits value) {part : Bytes} (front : part <+: layout.write value)
    (cut : part ≠ layout.write value) : ∃ left, reader.run part = .short left := by
  obtain ⟨tail, split⟩ := front
  have whole : reader.run (layout.write value) = .done value [] :=
    (reads ..).2 ⟨(List.append_nil _).symm, fits, fun _ => rfl⟩
  have more : tail ≠ [] := by
    rintro rfl
    exact cut (List.append_nil part ▸ split)
  cases run : reader.run part with
  | short left => exact ⟨left, rfl⟩
  | done other rest =>
    have splits := (reads ..).1 run
    have front : layout.write other <+: layout.write value := by
      rw [← split, splits.bytes_eq, List.append_assoc]
      exact List.prefix_append ..
    have shorter : layout.write other ≠ layout.write value := by
      intro same
      have lengths := congrArg List.length split
      have parts := congrArg List.length splits.bytes_eq
      have some := List.length_pos_iff.2 more
      simp only [List.length_append, same] at lengths parts
      omega
    -- The other value would be read off the front of the whole bytes too, and leave the tail.
    have again := reads.run_append run (delimits other splits.fits front shorter) tail
    rw [split, whole] at again
    simp at again
    exact absurd again.2.2 more

end Reader.Reads

end SftpWire
