import SftpWire.Wire.Primitive

/-!
Layouts: what the values of a type look like on the wire, said apart from the reader that takes
them. A layout also says which of its values can come back from the wire, and which of them leave
nothing behind them to be read. `Bounded` layouts are those whose values come back whenever their
bytes can be counted at all; pairs, rows and counted rows of such are such.
-/

namespace SftpWire

namespace Bytes

theorem toNat_lengthWord (n : Nat) : (lengthWord n).toNat = min n 4294967295 := by
  by_cases small : n < 4294967296
  · rw [lengthWord_toNat small]
    omega
  · have largest : (4294967295 : UInt32).toNat = 4294967295 := rfl
    rw [lengthWord, if_neg small, largest]
    omega

theorem length_ofString_eq_min (string : Bytes) :
    (ofString string).length = 4 + min string.length 4294967295 := by
  rw [ofString, List.length_append, length_ofWord32, List.length_take, toNat_lengthWord]
  omega

/-- A string that is too long for its length word is cut to one byte less than the word counts to,
and with the word before it that is still too long. -/
theorem length_lt_of_length_ofString_lt {string : Bytes}
    (small : (ofString string).length < 4294967296) : string.length < 4294967296 := by
  rw [length_ofString_eq_min] at small
  omega

/-- A string of one byte more than a length can say. -/
def overlong : Bytes := List.replicate 4294967296 0

theorem length_overlong : overlong.length = 4294967296 :=
  List.length_replicate

@[simp] theorem value_ofWord32 (word : UInt32) : value (ofWord32 word) = word.toNat := by
  rw [ofWord32, value_bigEndian 4 _ word.toNat_lt]

/-- A length in front of other bytes is the number that the first four of them stand for. -/
theorem value_take_ofWord32_append (word : UInt32) (rest : Bytes) :
    value ((ofWord32 word ++ rest).take 4) = word.toNat := by
  have front : (ofWord32 word ++ rest).take 4 = ofWord32 word :=
    List.take_left' (length_ofWord32 word)
  rw [front, value_ofWord32]

/-- The length of a string is four bytes. -/
theorem drop_ofString {string : Bytes} (small : string.length < 4294967296) :
    (ofString string).drop 4 = string := by
  rw [ofString_eq small, List.drop_left' (length_ofWord32 _)]

end Bytes

variable {α β : Type}

/-- How the values of a type are written. -/
structure Layout (α : Type) where
  /-- The bytes of a value. -/
  write : α → Bytes
  /-- The values that a reader can give back; no length in them is beyond a word. -/
  Fits : α → Prop
  /-- The values that take all the bytes there are, so that nothing can follow them. -/
  ToEnd : α → Prop := fun _ => False

namespace Layout

/-- `bytes` are a value that fits and then `rest`. -/
structure Splits (layout : Layout α) (bytes : Bytes) (value : α) (rest : Bytes) : Prop where
  bytes_eq : bytes = layout.write value ++ rest
  fits : layout.Fits value
  rest_eq_nil : layout.ToEnd value → rest = []

/-- Nothing is read to the end. -/
def Closed (layout : Layout α) : Prop :=
  ∀ value, ¬ layout.ToEnd value

/-- A value whose bytes can be counted in a word fits. -/
def Bounded (layout : Layout α) : Prop :=
  ∀ value, (layout.write value).length < 4294967296 → layout.Fits value

/-- Every value takes `least` bytes or more. -/
def AtLeast (layout : Layout α) (least : Nat) : Prop :=
  ∀ value, least ≤ (layout.write value).length

/-- The values made of those of one layout are written as these are. -/
structure Embeds (inner : Layout α) (outer : Layout β) (make : α → β) : Prop where
  write_eq : ∀ value, outer.write (make value) = inner.write value
  fits_iff : ∀ value, outer.Fits (make value) ↔ inner.Fits value
  toEnd_iff : ∀ value, outer.ToEnd (make value) ↔ inner.ToEnd value

/-- The layout of values that all fit, such as words. -/
def free (write : α → Bytes) : Layout α where
  write := write
  Fits _ := True

def string : Layout Bytes where
  write := Bytes.ofString
  Fits text := text.length < 4294967296

/-- The layout of all the bytes there are. -/
def remaining : Layout Bytes where
  write bytes := bytes
  Fits _ := True
  ToEnd _ := True

/-- The layout of two values, one behind the other. -/
def pair (first : Layout α) (second : Layout β) : Layout (α × β) where
  write parts := first.write parts.1 ++ second.write parts.2
  Fits parts := first.Fits parts.1 ∧ second.Fits parts.2
  ToEnd parts := second.ToEnd parts.2

/-- The layout of values that go on to the end. -/
def row (layout : Layout α) : Layout (List α) where
  write values := values.flatMap layout.write
  Fits values := ∀ value ∈ values, layout.Fits value
  ToEnd _ := True

/-- The layout of values behind their number. -/
def counted (layout : Layout α) : Layout (List α) where
  write values :=
    Bytes.ofWord32 (Bytes.lengthWord values.length) ++ values.flatMap layout.write
  Fits values := values.length < 4294967296 ∧ ∀ value ∈ values, layout.Fits value

variable {layout first : Layout α} {second : Layout β} {bytes rest : Bytes} {value : α}

theorem Closed.splits_iff (closed : layout.Closed) :
    layout.Splits bytes value rest ↔ bytes = layout.write value ++ rest ∧ layout.Fits value := by
  constructor
  · intro splits
    exact ⟨splits.bytes_eq, splits.fits⟩
  · intro written
    rcases written with ⟨split, fits⟩
    exact ⟨split, fits, fun toEnd => absurd toEnd (closed value)⟩

theorem free_closed (write : α → Bytes) : (free write).Closed :=
  fun _ => not_false

theorem string_closed : string.Closed :=
  fun _ => not_false

theorem counted_closed (layout : Layout α) : layout.counted.Closed :=
  fun _ => not_false

theorem pair_splits_iff {parts : α × β} :
    (first.pair second).Splits bytes parts rest ↔
      ∃ middle, bytes = first.write parts.1 ++ middle ∧ first.Fits parts.1 ∧
        second.Splits middle parts.2 rest := by
  constructor
  · intro splits
    rcases splits with ⟨rfl, ⟨fits, fits'⟩, last⟩
    exact ⟨_, List.append_assoc .., fits, rfl, fits', last⟩
  · intro splits
    rcases splits with ⟨_, rfl, fits, rfl, fits', last⟩
    exact ⟨(List.append_assoc ..).symm, ⟨fits, fits'⟩, last⟩

namespace Embeds

variable {inner : Layout α} {outer : Layout β} {make : α → β}

theorem splits_iff (embeds : inner.Embeds outer make) :
    outer.Splits bytes (make value) rest ↔ inner.Splits bytes value rest := by
  constructor
  · intro splits
    rcases splits with ⟨split, fits, last⟩
    rw [embeds.write_eq] at split
    rw [embeds.fits_iff] at fits
    rw [embeds.toEnd_iff] at last
    exact ⟨split, fits, last⟩
  · intro splits
    rcases splits with ⟨split, fits, last⟩
    rw [← embeds.write_eq] at split
    rw [← embeds.fits_iff] at fits
    rw [← embeds.toEnd_iff] at last
    exact ⟨split, fits, last⟩

theorem fits (embeds : inner.Embeds outer make) (bounded : inner.Bounded) (value : α)
    (small : (outer.write (make value)).length < 4294967296) : outer.Fits (make value) := by
  rw [embeds.write_eq] at small
  exact (embeds.fits_iff value).2 (bounded value small)

theorem atLeast {least : Nat} (embeds : inner.Embeds outer make) (each : inner.AtLeast least)
    (value : α) : least ≤ (outer.write (make value)).length := by
  rw [embeds.write_eq]
  exact each value

end Embeds

/-! ## Lengths -/

theorem length_write_le_of_mem {values : List α} (member : value ∈ values) :
    (layout.write value).length ≤ (values.flatMap layout.write).length := by
  obtain ⟨before, after, rfl⟩ := List.append_of_mem member
  simp only [List.flatMap_append, List.flatMap_cons, List.length_append]
  omega

theorem string_atLeast : string.AtLeast 4 := by
  intro text
  simp [string, Bytes.ofString]

namespace AtLeast

variable {least least' : Nat}

theorem pair (each : first.AtLeast least) (each' : second.AtLeast least') :
    (first.pair second).AtLeast (least + least') := by
  intro parts
  simp only [Layout.pair, List.length_append]
  exact Nat.add_le_add (each parts.1) (each' parts.2)

theorem write_ne_nil (each : layout.AtLeast least) (some : 0 < least) (value : α) :
    layout.write value ≠ [] :=
  List.length_pos_iff.1 (Nat.lt_of_lt_of_le some (each value))

/-- A row takes as many times the least as there are values in it. -/
theorem mul_length_le (each : layout.AtLeast least) (values : List α) :
    least * values.length ≤ (values.flatMap layout.write).length := by
  induction values with
  | nil => exact Nat.le_refl _
  | cons value values ih =>
    rw [List.flatMap_cons, List.length_append, List.length_cons, Nat.mul_succ, Nat.add_comm]
    exact Nat.add_le_add (each value) ih

end AtLeast

theorem free_bounded (write : α → Bytes) : (free write).Bounded :=
  fun _ _ => trivial

theorem remaining_bounded : remaining.Bounded :=
  fun _ _ => trivial

theorem string_bounded : string.Bounded :=
  fun _ small => Bytes.length_lt_of_length_ofString_lt small

theorem Bounded.pair (bounded : first.Bounded) (bounded' : second.Bounded) :
    (first.pair second).Bounded := by
  intro parts small
  have lengths : ((first.pair second).write parts).length =
      (first.write parts.1).length + (second.write parts.2).length := List.length_append
  exact ⟨bounded parts.1 (by omega), bounded' parts.2 (by omega)⟩

/-- A row whose bytes can be counted in a word holds only values that fit. -/
theorem Bounded.row (bounded : layout.Bounded) : layout.row.Bounded := by
  intro values small value member
  exact bounded value (Nat.lt_of_le_of_lt (length_write_le_of_mem member) small)

/-- A value takes at least one byte, so where the bytes can be counted the values can. -/
theorem Bounded.counted (bounded : layout.Bounded) (nonempty : ∀ value, layout.write value ≠ []) :
    layout.counted.Bounded := by
  intro values small
  have lengths : (layout.counted.write values).length =
      4 + (values.flatMap layout.write).length := by
    rw [← Bytes.length_ofWord32 (Bytes.lengthWord values.length)]
    exact List.length_append
  have inner : (values.flatMap layout.write).length < 4294967296 := by omega
  have one : layout.AtLeast 1 := fun value => List.length_pos_iff.2 (nonempty value)
  have count := one.mul_length_le values
  rw [Nat.one_mul] at count
  exact ⟨Nat.lt_of_le_of_lt count inner, bounded.row values inner⟩

end Layout

end SftpWire
