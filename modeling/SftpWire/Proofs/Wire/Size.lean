import SftpWire.Proofs.Wire.Layout

/-!
Sizes. The size of a value says how many bytes it will take before any of them is written, by a
function of its own, which has to keep up with the writer. `Layout.Measured` says that it does.
Every way of putting layouts together adds the sizes of the parts, so the sizes of packets are right
when those of strings and words are. A string that is too long for the word before it is cut, so
sizes can only be right for what a word can count.
-/

namespace SftpWire

/-- Values in a row take as many bytes as their sizes come to. -/
theorem Bytes.length_flatMap {α : Type} {write : α → Bytes} {size : α → Nat} {values : List α}
    (exact : ∀ value ∈ values, (write value).length = size value) :
    (values.flatMap write).length = rowSize size values := by
  induction values with
  | nil => rfl
  | cons value values ih =>
    obtain ⟨first, others⟩ := List.forall_mem_cons.1 exact
    rw [List.flatMap_cons, List.length_append, first, ih others, rowSize]

namespace Layout

variable {α β : Type} {layout first : Layout α} {second : Layout β} {size : α → Nat}
  {size' : β → Nat}

/-- The size of a value is the number of its bytes, if a word can count them. -/
def Measured (layout : Layout α) (size : α → Nat) : Prop :=
  ∀ value, (layout.write value).length < 4294967296 → (layout.write value).length = size value

theorem free_measured {write : α → Bytes} (exact : ∀ value, (write value).length = size value) :
    (free write).Measured size :=
  fun value _ => exact value

theorem string_measured : string.Measured fun text => 4 + text.length := by
  intro text small
  exact Bytes.length_ofString (Bytes.length_lt_of_length_ofString_lt small)

theorem remaining_measured : remaining.Measured List.length :=
  fun _ _ => rfl

theorem Measured.pair (measured : first.Measured size) (measured' : second.Measured size') :
    (first.pair second).Measured fun parts => size parts.1 + size' parts.2 := by
  intro parts small
  have lengths : ((first.pair second).write parts).length =
      (first.write parts.1).length + (second.write parts.2).length := List.length_append
  rw [lengths, measured parts.1 (by omega), measured' parts.2 (by omega)]

theorem Measured.row (measured : layout.Measured size) :
    layout.row.Measured (Bytes.rowSize size) := by
  intro values small
  apply Bytes.length_flatMap
  intro value member
  exact measured value (Nat.lt_of_le_of_lt (length_write_le_of_mem member) small)

/-- The number in front takes four bytes. -/
theorem Measured.counted (measured : layout.Measured size) :
    layout.counted.Measured fun values => 4 + Bytes.rowSize size values := by
  intro values small
  have lengths : (layout.counted.write values).length = 4 + (layout.row.write values).length := by
    simp only [Layout.counted, Layout.row, List.length_append, Bytes.length_ofWord32]
  rw [lengths, measured.row values (by omega)]

/-- A layout measures the values that are made of its own. -/
theorem Embeds.length_write {inner : Layout α} {outer : Layout β} {make : α → β}
    (embeds : inner.Embeds outer make) (measured : inner.Measured size) (value : α)
    (small : (outer.write (make value)).length < 4294967296) :
    (outer.write (make value)).length = size value := by
  rw [embeds.write_eq] at small ⊢
  exact measured value small

/-- Of a body that a layout measures, the fields take what the bulk does not. -/
theorem Measured.length_fields (measured : layout.Measured size) {value : α} {fields bulk : Bytes}
    {n : Nat} (written : fields ++ bulk = layout.write value)
    (small : (fields ++ bulk).length < 4294967296) (agrees : size value = n + bulk.length) :
    fields.length = n := by
  have length := measured value (written ▸ small)
  rw [← written, List.length_append] at length
  omega

end Layout

end SftpWire
