import SftpWire.Packet.Fault
import SftpWire.Proofs.Attributes.Layout
import SftpWire.Proofs.Wire.Prefix
import SftpWire.Proofs.Wire.Size

/-!
Attributes there and back. The flag word says how the attributes behind it go on, so attributes say
where they end, and what is read is what was written whatever stands behind it. The writer, the size
and the reader each go by the flags on their own; main statement: `reader_bytes`, by which they
agree.
-/

namespace SftpWire

theorem ExtendedAttribute.length_bytes {attr : ExtendedAttribute} (fits : layout.Fits attr) :
    attr.bytes.length = attr.wireSize := by
  obtain ⟨type, data⟩ := fits
  rw [bytes, List.length_append, Bytes.length_ofString type, Bytes.length_ofString data, wireSize]

namespace Attributes

/-- No length in the attributes is beyond a word. -/
def Countable (attrs : Attributes) : Prop :=
  attrs.extendedOrEmpty.length < 4294967296 ∧
    ∀ attr ∈ attrs.extendedOrEmpty, attr.type.length < 4294967296 ∧ attr.data.length < 4294967296

theorem fits_iff_countable {attrs : Attributes} : layout.Fits attrs ↔ attrs.Countable := by
  unfold Countable extendedOrEmpty
  cases behind : attrs.extended with
  | none => simp [layout, behind]
  | some extended => simp [layout, behind, Layout.counted, ExtendedAttribute.layout]

theorem length_present {α : Type} {write : α → Bytes} {size : α → Nat} (option : Option α)
    (exact : ∀ value ∈ option, (write value).length = size value) :
    (present write option).length = sizeIf size option := by
  cases option with
  | none => rfl
  | some value => exact exact value rfl

@[simp] theorem length_pairBytes (pair : UInt32 × UInt32) : (pairBytes pair).length = 8 := by
  simp [pairBytes]

/-- An attribute counts if it is there, and only those of other kinds have a length that is not
fixed. -/
theorem length_bytes {attrs : Attributes} (fits : layout.Fits attrs) :
    attrs.bytes.length = attrs.wireSize := by
  have extended : (present extendedBytes attrs.extended).length =
      sizeIf (fun extended => 4 + Bytes.rowSize ExtendedAttribute.wireSize extended)
        attrs.extended := by
    refine length_present _ fun extended isThere => ?_
    obtain ⟨-, each⟩ := fits extended isThere
    have pairs : (extended.flatMap ExtendedAttribute.bytes).length =
        Bytes.rowSize ExtendedAttribute.wireSize extended :=
      Bytes.length_flatMap fun attr member => ExtendedAttribute.length_bytes (each attr member)
    rw [extendedBytes, List.length_append, Bytes.length_ofWord32, pairs]
  have size := length_present attrs.size fun word _ => Bytes.length_ofWord64 word
  have owner := length_present attrs.owner fun pair _ => length_pairBytes pair
  have permissions := length_present attrs.permissions fun mode _ => Bytes.length_ofWord32 mode.word
  have times := length_present attrs.times fun pair _ => length_pairBytes pair
  simp only [bytes, fieldBytes, List.length_append, Bytes.length_ofWord32, size, owner,
    permissions, times, extended, wireSize, Nat.add_assoc]

theorem layout_measured : layout.Measured wireSize :=
  fun attrs small => length_bytes (layout_bounded attrs small)

theorem run_reader_eq_done {bytes rest : Bytes} {attrs : Attributes} :
    reader.run bytes = .done attrs rest ↔ bytes = attrs.bytes ++ rest ∧ attrs.Countable := by
  rw [reader_reads, layout_closed.splits_iff, fits_iff_countable]
  rfl

/-- Attributes whose lengths a word can count come back in front of anything, and no others do. They
take exactly their size, and every strict part of their bytes runs short. Whatever is read,
under whatever flags, is what was written of it and what stood behind. -/
theorem reader_bytes :
    (∀ attrs : Attributes,
      (attrs.Countable ↔ ∀ rest, reader.run (attrs.bytes ++ rest) = .done attrs rest) ∧
      (attrs.Countable → attrs.bytes.length = attrs.wireSize ∧
        ∀ part, part <+: attrs.bytes → part ≠ attrs.bytes →
          (reader.run part).toExcept = .error .short)) ∧
    ∀ (bytes : Bytes) (attrs : Attributes) (rest : Bytes),
      reader.run bytes = .done attrs rest → bytes = attrs.bytes ++ rest ∧ attrs.Countable := by
  refine ⟨fun attrs => ⟨⟨?_, ?_⟩, ?_⟩, ?_⟩
  · intro countable rest
    exact run_reader_eq_done.2 ⟨rfl, countable⟩
  · intro comesBack
    exact (run_reader_eq_done.1 (comesBack [])).2
  · intro countable
    have fits := fits_iff_countable.2 countable
    refine ⟨length_bytes fits, fun part front cut => ?_⟩
    obtain ⟨left, run⟩ :=
      reader_reads.run_eq_short_of_isPrefix fits (layout_closed.delimits attrs) front cut
    rw [run]
    rfl
  · intro bytes attrs rest
    exact run_reader_eq_done.1

/-- The size counts all of a name that is too long, but not all of it is written. -/
theorem length_bytes_lt {type : Bytes} (long : 4294967296 ≤ type.length) :
    (bytes { extended := some [⟨type, []⟩] }).length <
      wireSize { extended := some [⟨type, []⟩] } := by
  have cut := Bytes.length_ofString_eq_min type
  have none : (Bytes.ofString []).length = 4 := rfl
  simp only [bytes, fieldBytes, present, extendedBytes, ExtendedAttribute.bytes, wireSize, sizeIf,
    Bytes.rowSize, ExtendedAttribute.wireSize, List.length_append, List.flatMap_cons,
    List.flatMap_nil, List.length_nil, Bytes.length_ofWord32]
  omega

/-- New attributes that are given one with a longer name than a length can say do not come back, and
take fewer bytes than their size. -/
theorem reader_bytes_overlong :
    ∃ attrs : Attributes, attrs = empty.edit [.setExtended [⟨Bytes.overlong, []⟩]] ∧
      attrs.bytes.length ≠ attrs.wireSize ∧
      ¬ ∀ rest, reader.run (attrs.bytes ++ rest) = .done attrs rest := by
  have long : 4294967296 ≤ Bytes.overlong.length := Nat.le_of_eq Bytes.length_overlong.symm
  refine ⟨_, rfl, Nat.ne_of_lt (length_bytes_lt long), fun comesBack => ?_⟩
  have countable := (run_reader_eq_done.1 (comesBack [])).2
  have short := (countable.2 ⟨Bytes.overlong, []⟩ List.mem_cons_self).1
  exact absurd long (Nat.not_le_of_lt short)

/-- Attributes with a size, one attribute of another kind and a flag with no meaning, in front of
two other bytes, whole and without the last of their own; and attributes from the wire under a flag
with no meaning. -/
theorem reader_bytes_sample :
    ∃ attrs : Attributes, attrs.flags = 0x80000011 ∧ attrs.Countable ∧
      reader.run (attrs.bytes ++ [7, 8]) = .done attrs [7, 8] ∧ attrs.bytes.length = 25 ∧
      (reader.run (attrs.bytes.take 24)).toExcept = .error .short ∧
      [0, 0, 0, 0x20, 9] = bytes { reserved := 0x20 } ++ [9] := by
  let attrs : Attributes :=
    { size := some 1, extended := some [⟨[0x61], []⟩], reserved := 0x10 }
  have countable : attrs.Countable := by
    unfold Countable
    decide
  have written := reader_bytes.1 attrs
  have comesBack := written.1.1 countable [7, 8]
  obtain ⟨length, short⟩ := written.2 countable
  have cut := short (attrs.bytes.take 24) (List.take_prefix 24 _) (by decide)
  have read := reader_bytes.2 [0, 0, 0, 0x20, 9] { reserved := 0x20 } [9] rfl
  exact ⟨attrs, by decide, countable, comesBack, length, cut, read.1⟩

end Attributes

end SftpWire
