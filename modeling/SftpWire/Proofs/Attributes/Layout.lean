import SftpWire.Attributes.Codec
import SftpWire.Proofs.Wire.Reads
import SftpWire.Proofs.Wire.Word

/-!
The layout of attributes. The flag word and the attributes that are there say the same thing twice,
so most of the work is to go from one to the other: `flags_and` takes the word of given attributes
apart, and `word_eq` puts the word of read attributes together again. Main statement:
`Attributes.reader_reads`, by which attributes are what stands in front of any other bytes.
-/

namespace SftpWire

/-- The layout of an attribute of another kind. -/
def ExtendedAttribute.layout : Layout ExtendedAttribute where
  write := ExtendedAttribute.bytes
  Fits attr := attr.type.length < 4294967296 ∧ attr.data.length < 4294967296

namespace ExtendedAttribute

theorem embeds : (Layout.string.pair .string).Embeds layout fun parts =>
    { type := parts.1, data := parts.2 } :=
  ⟨fun _ => rfl, fun _ => Iff.rfl, fun _ => Iff.rfl⟩

theorem layout_closed : layout.Closed :=
  fun _ => not_false

theorem layout_bounded : layout.Bounded := by
  intro attr small
  exact embeds.fits (Layout.string_bounded.pair Layout.string_bounded) (attr.type, attr.data) small

theorem reader_reads : reader.Reads layout := by
  intro bytes attr rest
  rw [reader, Reader.string_reads.run_pair_eq_done Layout.string_closed Reader.string_reads embeds]
  constructor
  · intro read
    rcases read with ⟨_, _, -, splits⟩
    exact splits
  · intro splits
    exact ⟨attr.type, attr.data, rfl, splits⟩

theorem layout_atLeast : layout.AtLeast 8 := by
  intro attr
  exact embeds.atLeast (Layout.string_atLeast.pair Layout.string_atLeast) (attr.type, attr.data)

theorem write_ne_nil (attr : ExtendedAttribute) : layout.write attr ≠ [] :=
  layout_atLeast.write_ne_nil (by decide) attr

end ExtendedAttribute

namespace Attributes

open AttributeFlag

/-- The layout of attributes. -/
def layout : Layout Attributes where
  write := Attributes.bytes
  Fits attrs := ∀ extended ∈ attrs.extended, ExtendedAttribute.layout.counted.Fits extended

theorem layout_closed : layout.Closed :=
  fun _ => not_false

/-! ## The flag word -/

theorem flagIf_and (up : Bool) (flag other : UInt32) :
    flagIf up flag &&& other = flagIf up (flag &&& other) := by
  cases up
  · exact UInt32.zero_and
  · rfl

@[simp] theorem flagIf_zero (up : Bool) : flagIf up 0 = 0 := by
  cases up <;> rfl

/-- A known part of the flag word comes from the attributes that are there alone. -/
theorem flags_and (attrs : Attributes) {flag : UInt32} (isKnown : known &&& flag = flag) :
    attrs.flags &&& flag =
      flagIf attrs.size.isSome (AttributeFlag.size &&& flag)
        ||| flagIf attrs.owner.isSome (AttributeFlag.owner &&& flag)
        ||| flagIf attrs.permissions.isSome (AttributeFlag.permissions &&& flag)
        ||| flagIf attrs.times.isSome (AttributeFlag.times &&& flag)
        ||| flagIf attrs.extended.isSome (AttributeFlag.extended &&& flag) := by
  have apart : attrs.reserved &&& flag = 0 := by
    rw [← isKnown, ← UInt32.and_assoc, attrs.reserved_known, UInt32.zero_and]
  simp only [flags, Word.or_and, flagIf_and, apart, UInt32.zero_or]

theorem flags_and_size (attrs : Attributes) :
    attrs.flags &&& AttributeFlag.size = flagIf attrs.size.isSome AttributeFlag.size := by
  rw [flags_and attrs (by decide)]
  show flagIf _ AttributeFlag.size ||| flagIf _ 0 ||| flagIf _ 0 ||| flagIf _ 0 ||| flagIf _ 0 = _
  simp only [flagIf_zero, UInt32.or_zero]

theorem flags_and_owner (attrs : Attributes) :
    attrs.flags &&& AttributeFlag.owner = flagIf attrs.owner.isSome AttributeFlag.owner := by
  rw [flags_and attrs (by decide)]
  show flagIf _ 0 ||| flagIf _ AttributeFlag.owner ||| flagIf _ 0 ||| flagIf _ 0 ||| flagIf _ 0 = _
  simp only [flagIf_zero, UInt32.or_zero, UInt32.zero_or]

theorem flags_and_permissions (attrs : Attributes) :
    attrs.flags &&& AttributeFlag.permissions =
      flagIf attrs.permissions.isSome AttributeFlag.permissions := by
  rw [flags_and attrs (by decide)]
  show flagIf _ 0 ||| flagIf _ 0 ||| flagIf _ AttributeFlag.permissions ||| flagIf _ 0
    ||| flagIf _ 0 = _
  simp only [flagIf_zero, UInt32.or_zero, UInt32.zero_or]

theorem flags_and_times (attrs : Attributes) :
    attrs.flags &&& AttributeFlag.times = flagIf attrs.times.isSome AttributeFlag.times := by
  rw [flags_and attrs (by decide)]
  show flagIf _ 0 ||| flagIf _ 0 ||| flagIf _ 0 ||| flagIf _ AttributeFlag.times ||| flagIf _ 0 = _
  simp only [flagIf_zero, UInt32.or_zero, UInt32.zero_or]

theorem flags_and_extended (attrs : Attributes) :
    attrs.flags &&& AttributeFlag.extended =
      flagIf attrs.extended.isSome AttributeFlag.extended := by
  rw [flags_and attrs (by decide)]
  show flagIf _ 0 ||| flagIf _ 0 ||| flagIf _ 0 ||| flagIf _ 0 ||| flagIf _ AttributeFlag.extended
    = _
  simp only [flagIf_zero, UInt32.zero_or]

theorem flags_and_unknown (attrs : Attributes) : attrs.flags &&& ~~~known = attrs.reserved := by
  have apart (up : Bool) {flag : UInt32} (isKnown : flag &&& ~~~known = 0) :
      flagIf up flag &&& ~~~known = 0 := by
    rw [flagIf_and, isKnown, flagIf_zero]
  have same : attrs.reserved &&& ~~~known = attrs.reserved := by
    have halves := Word.and_or attrs.reserved known (~~~known)
    rw [attrs.reserved_known, show known ||| ~~~known = -1 by decide, UInt32.and_neg_one,
      UInt32.zero_or] at halves
    exact halves.symm
  simp only [flags, Word.or_and, same]
  rw [apart _ (by decide), apart _ (by decide), apart _ (by decide), apart _ (by decide),
    apart _ (by decide)]
  simp only [UInt32.or_zero]

/-- A word is its unknown bits and each of the known ones. -/
theorem word_eq (word : UInt32) :
    (word &&& ~~~known) ||| (word &&& AttributeFlag.size) ||| (word &&& AttributeFlag.owner)
      ||| (word &&& AttributeFlag.permissions) ||| (word &&& AttributeFlag.times)
      ||| (word &&& AttributeFlag.extended) = word := by
  simp only [← Word.and_or]
  exact UInt32.and_neg_one

/-! ## Reading -/

/-- An optional attribute is read when its flag is up and is nothing when it is down. -/
theorem run_readerIf_eq_done {α : Type} {reader : Reader α} {layout : Layout α}
    (reads : reader.Reads layout) (closed : layout.Closed) (word flag : UInt32)
    (n : Nat) (single : flag.toBitVec = BitVec.twoPow 32 n) (some : flag ≠ 0)
    {bytes rest : Bytes} {option : Option α} :
    (readerIf word flag reader).run bytes = .done option rest ↔
      word &&& flag = flagIf option.isSome flag ∧ bytes = present layout.write option ++ rest ∧
        ∀ value ∈ option, layout.Fits value := by
  rw [readerIf]
  rcases Word.and_eq_zero_or_eq word single with down | up
  · rw [if_pos down, down, Reader.run_pure, Outcome.done.injEq]
    cases option with
    | none => simp [present, flagIf]
    | some value => simp [flagIf, some.symm]
  · rw [up, if_neg some]
    simp only [Reader.run_map, Outcome.bind_eq_done, reads _ _ _, closed.splits_iff,
      Outcome.done.injEq]
    cases option with
    | none => simp [flagIf, some]
    | some value => simp [flagIf, present]

theorem pairReader_reads : pairReader.Reads (.free pairBytes) := by
  apply Reader.reads_free
  rintro bytes ⟨first, second⟩ rest
  simp only [pairReader, Reader.run_bind, Reader.run_pure, Outcome.bind_eq_done,
    Reader.run_word32_eq_done, Outcome.done.injEq, Prod.mk.injEq]
  constructor
  · intro read
    rcases read with ⟨_, _, rfl, _, _, rfl, ⟨rfl, rfl⟩, rfl⟩
    exact (List.append_assoc ..).symm
  · rintro rfl
    exact ⟨first, _, List.append_assoc .., second, rest, rfl, ⟨rfl, rfl⟩, rfl⟩

theorem modeReader_reads :
    (FileMode.mk <$> Reader.word32).Reads (.free fun mode => Bytes.ofWord32 mode.word) := by
  apply Reader.reads_free
  rintro bytes ⟨word⟩ rest
  simp only [Reader.run_map, Outcome.bind_eq_done, Reader.run_word32_eq_done, Outcome.done.injEq,
    FileMode.mk.injEq]
  constructor
  · intro read
    rcases read with ⟨_, _, rfl, rfl, rfl⟩
    rfl
  · rintro rfl
    exact ⟨word, rest, rfl, rfl, rfl⟩

theorem extendedReader_reads : extendedReader.Reads ExtendedAttribute.layout.counted := by
  intro bytes extended rest
  simp only [extendedReader, Reader.run_bind, Outcome.bind_eq_done]
  exact ExtendedAttribute.reader_reads.run_counted_eq_done ExtendedAttribute.layout_closed

/-- The attributes that a flag word announces are those whose own flag word it is. -/
theorem run_readerFor_eq_done {word : UInt32} {bytes rest : Bytes} {attrs : Attributes} :
    (readerFor word).run bytes = .done attrs rest ↔
      attrs.flags = word ∧ bytes = attrs.fieldBytes ++ rest ∧ layout.Fits attrs := by
  simp only [readerFor, Reader.run_bind, Reader.run_pure, Outcome.bind_eq_done,
    run_readerIf_eq_done Reader.word64_reads (Layout.free_closed _) word AttributeFlag.size 0
      (by decide) (by decide),
    run_readerIf_eq_done pairReader_reads (Layout.free_closed _) word AttributeFlag.owner 1
      (by decide) (by decide),
    run_readerIf_eq_done modeReader_reads (Layout.free_closed _) word AttributeFlag.permissions 2
      (by decide) (by decide),
    run_readerIf_eq_done pairReader_reads (Layout.free_closed _) word AttributeFlag.times 3
      (by decide) (by decide),
    run_readerIf_eq_done extendedReader_reads (Layout.counted_closed _) word
      AttributeFlag.extended 31 (by decide) (by decide), Outcome.done.injEq]
  constructor
  · intro read
    rcases read with ⟨size, _, ⟨isSize, rfl, -⟩, owner, _, ⟨isOwner, rfl, -⟩, permissions, _,
      ⟨isPermissions, rfl, -⟩, times, _, ⟨isTimes, rfl, -⟩, extended, _, ⟨isExtended, rfl, fits⟩,
      rfl, rfl⟩
    refine ⟨?_, ?_, fits⟩
    · rw [flags, ← isSize, ← isOwner, ← isPermissions, ← isTimes, ← isExtended]
      exact word_eq word
    · simp only [fieldBytes, List.append_assoc]
      rfl
  · intro written
    rcases written with ⟨rfl, rfl, fits⟩
    refine ⟨attrs.size, _, ⟨attrs.flags_and_size, ?_, fun _ _ => trivial⟩,
      attrs.owner, _, ⟨attrs.flags_and_owner, rfl, fun _ _ => trivial⟩,
      attrs.permissions, _, ⟨attrs.flags_and_permissions, rfl, fun _ _ => trivial⟩,
      attrs.times, _, ⟨attrs.flags_and_times, rfl, fun _ _ => trivial⟩,
      attrs.extended, rest, ⟨attrs.flags_and_extended, rfl, fits⟩, ?_, rfl⟩
    · simp only [fieldBytes, List.append_assoc]
      rfl
    · have unknown := attrs.flags_and_unknown
      cases attrs
      simp only [mk.injEq, true_and]
      exact unknown

/-- Attributes are read exactly where they stand, in front of whatever follows them. -/
theorem reader_reads : reader.Reads layout := by
  intro bytes attrs rest
  rw [layout_closed.splits_iff]
  simp only [reader, Reader.run_bind, Outcome.bind_eq_done, Reader.run_word32_eq_done,
    run_readerFor_eq_done]
  constructor
  · intro read
    rcases read with ⟨_, _, rfl, rfl, rfl, fits⟩
    exact ⟨(List.append_assoc ..).symm, fits⟩
  · intro written
    rcases written with ⟨rfl, fits⟩
    exact ⟨_, _, List.append_assoc .., rfl, rfl, fits⟩

/-- The flag word is always there. -/
theorem layout_atLeast : layout.AtLeast 4 := by
  intro attrs
  simp [layout, bytes]

theorem layout_bounded : layout.Bounded := by
  intro attrs small extended present
  have counted : (extendedBytes extended).length < 4294967296 := by
    have behind : attrs.extended = some extended := present
    simp only [layout, bytes, fieldBytes, behind, Attributes.present, List.length_append] at small
    omega
  exact ExtendedAttribute.layout_bounded.counted ExtendedAttribute.write_ne_nil extended counted

end Attributes

end SftpWire
