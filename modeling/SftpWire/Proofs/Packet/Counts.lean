import SftpWire.Proofs.Packet.Response

/-!
Counts that a peer sends. Room for the values that are counted is made before they are read, so a
count must not decide alone how much. No value takes fewer bytes than the least of its layout, and
so the bytes that stand behind a count bound it: a count beyond them runs short, and the room made
for any other is exact. Main statement: `counts_bounded`, for the files of a listing and for the
attributes of other kinds.
-/

namespace SftpWire

variable {α β : Type}

namespace Reader

/-- The number of values that room is made for when a count has been read and `rest` stands behind
it: no more than the bytes can hold. -/
def room (least count : Nat) (rest : Bytes) : Nat :=
  min count (rest.length / least)

/-- What a count comes to that `rest` stands behind. `holds value values` says that `value` is made
of the counted values. -/
structure CountBounded (least : Nat) (element : Reader α) (holds : β → List α → Prop)
    (count : UInt32) (rest : Bytes) (outcome : Outcome β) : Prop where
  /-- A read that succeeds gives as many values as were counted, in bytes that were there, and had
  made room for exactly these. -/
  done : ∀ value last, outcome = .done value last →
    ∃ values, holds value values ∧ values.length = count.toNat ∧
      least * count.toNat ≤ rest.length ∧ room least count.toNat rest = count.toNat
  /-- A count beyond the bytes fails. -/
  short : rest.length < least * count.toNat → outcome.toExcept = .error .short
  room_le : least * room least count.toNat rest ≤ rest.length
  /-- As many bytes could hold the values that room is made for. -/
  room_holds : ∃ bytes : Bytes, bytes.length = rest.length ∧
    ∃ values last, element.times (room least count.toNat rest) bytes = .done values last
  /-- The values read so far never outgrow the room, however the read ends. -/
  within : ∀ n ≤ count.toNat, ∀ values last, element.times n rest = .done values last →
    values.length = n ∧ n ≤ room least count.toNat rest

variable {least n count : Nat} {rest : Bytes}

theorem mul_room_le (least count : Nat) (rest : Bytes) :
    least * room least count rest ≤ rest.length :=
  calc
    least * room least count rest ≤ least * (rest.length / least) :=
      Nat.mul_le_mul_left least (Nat.min_le_right ..)
    _ ≤ rest.length := Nat.mul_div_le ..

theorem le_room (some : 0 < least) (small : n ≤ count) (enough : least * n ≤ rest.length) :
    n ≤ room least count rest := by
  have holds : n ≤ rest.length / least := by
    rwa [Nat.le_div_iff_mul_le some, Nat.mul_comm]
  exact Nat.le_min.2 ⟨small, holds⟩

theorem room_eq (some : 0 < least) (enough : least * count ≤ rest.length) :
    room least count rest = count :=
  Nat.le_antisymm (Nat.min_le_left ..) (le_room some (Nat.le_refl count) enough)

namespace Reads

variable {reader : Reader α} {layout : Layout α}

/-- Values that were read took their bytes. -/
theorem mul_le_of_times_eq_done (reads : reader.Reads layout) (closed : layout.Closed)
    (each : layout.AtLeast least) {bytes last : Bytes} {values : List α}
    (read : reader.times n bytes = .done values last) :
    values.length = n ∧ least * n ≤ bytes.length := by
  obtain ⟨rfl, rfl, -⟩ := (reads.times_eq_done closed).1 read
  have taken := each.mul_length_le values
  rw [List.length_append]
  exact ⟨rfl, Nat.le_add_right_of_le taken⟩

/-- A value of the least size fits as often as there is room for it. -/
theorem exists_times_eq_done (reads : reader.Reads layout) (closed : layout.Closed)
    (smallest : ∃ value, layout.Fits value ∧ (layout.write value).length = least)
    {length : Nat} (enough : least * n ≤ length) :
    ∃ bytes : Bytes, bytes.length = length ∧
      ∃ values last, reader.times n bytes = .done values last := by
  obtain ⟨value, fits, size⟩ := smallest
  let row := (List.replicate n value).flatMap layout.write
  have taken : row.length = least * n := by
    simp [row, List.length_flatMap, size, Nat.mul_comm]
  refine ⟨row ++ List.replicate (length - least * n) 0, ?_, List.replicate n value, _,
    (reads.times_eq_done closed).2 ⟨List.length_replicate, rfl, ?_⟩⟩
  · rw [List.length_append, taken, List.length_replicate]
    omega
  · intro other member
    rw [List.eq_of_mem_replicate member]
    exact fits

/-- Reading as many values as are counted, and making the value of them. -/
theorem countBounded (reads : reader.Reads layout) (closed : layout.Closed)
    (each : layout.AtLeast least) (some : 0 < least)
    (smallest : ∃ value, layout.Fits value ∧ (layout.write value).length = least)
    {count : UInt32} {holds : β → List α → Prop}
    (make : List α → β) (made : ∀ values, holds (make values) values) {outcome : Outcome β}
    (run : outcome = (reader.times count.toNat rest).bind fun values last =>
      .done (make values) last) :
    CountBounded least reader holds count rest outcome where
  done value last read := by
    rw [run, Outcome.bind_eq_done] at read
    obtain ⟨values, _, read, same⟩ := read
    cases same
    obtain ⟨length, enough⟩ := reads.mul_le_of_times_eq_done closed each read
    exact ⟨values, made values, length, enough, room_eq some enough⟩
  short few := by
    cases read : reader.times count.toNat rest with
    | short last =>
      rw [run, read]
      rfl
    | done values last =>
      have enough := (reads.mul_le_of_times_eq_done closed each read).2
      exact absurd enough (Nat.not_le.2 few)
  room_le := mul_room_le ..
  room_holds := reads.exists_times_eq_done closed smallest (mul_room_le ..)
  within n small values last read := by
    obtain ⟨length, enough⟩ := reads.mul_le_of_times_eq_done closed each read
    exact ⟨length, le_room some small enough⟩

end Reads

end Reader

theorem Response.run_nameReader {bytes rest : Bytes} {count : UInt32}
    (read : Reader.word32.run bytes = .done count rest) :
    nameReader.run bytes =
      (NameEntry.reader.times count.toNat rest).bind fun entries last =>
        .done (.name entries) last := by
  rw [nameReader, Reader.run_bind, read]
  rfl

namespace Attributes

/-- Reads the attributes in front of those of other kinds and then the count of these. -/
def countReader (flags : UInt32) : Reader UInt32 := do
  let _ ← readerIf flags AttributeFlag.size Reader.word64
  let _ ← readerIf flags AttributeFlag.owner pairReader
  let _ ← readerIf flags AttributeFlag.permissions (FileMode.mk <$> Reader.word32)
  let _ ← readerIf flags AttributeFlag.times pairReader
  Reader.word32

/-- Behind the count stand the attributes of other kinds, and nothing else is read. -/
theorem exists_run_readerFor {flags count : UInt32} {bytes rest : Bytes}
    (up : flags &&& AttributeFlag.extended ≠ 0)
    (read : (countReader flags).run bytes = .done count rest) :
    ∃ make : List ExtendedAttribute → Attributes,
      (∀ extended, (make extended).extended = some extended) ∧
        (readerFor flags).run bytes =
          (ExtendedAttribute.reader.times count.toNat rest).bind fun extended last =>
            .done (make extended) last := by
  simp only [countReader, Reader.run_bind, Outcome.bind_eq_done] at read
  obtain ⟨size, _, readSize, owner, _, readOwner, permissions, _, readPermissions, times, behind,
    readTimes, readCount⟩ := read
  refine ⟨fun extended =>
    { size, owner, permissions, times, extended := some extended
      reserved := flags &&& ~~~AttributeFlag.known
      reserved_known := unknown_known flags }, fun _ => rfl, ?_⟩
  have readExtended : (readerIf flags AttributeFlag.extended extendedReader).run behind =
      (ExtendedAttribute.reader.times count.toNat rest).bind fun extended last =>
        .done (some extended) last := by
    rw [readerIf, if_neg up, Reader.run_map, extendedReader, Reader.run_bind, readCount]
    rfl
  simp only [readerFor, Reader.run_bind, Reader.run_pure, readSize, readOwner, readPermissions,
    readTimes, readExtended, Outcome.bind_done, Outcome.bind_assoc]

end Attributes

/-- The files of a listing take twelve bytes each or more and the attributes of other kinds eight,
so a count of them is bounded by the bytes that stand behind it. -/
theorem counts_bounded (bytes rest : Bytes) (count : UInt32) :
    (Reader.word32.run bytes = .done count rest →
      Reader.CountBounded 12 NameEntry.reader
        (fun response entries => response = Response.name entries) count rest
        (Response.nameReader.run bytes)) ∧
    ∀ flags : UInt32, flags &&& AttributeFlag.extended ≠ 0 →
      (Attributes.countReader flags).run bytes = .done count rest →
        Reader.CountBounded 8 ExtendedAttribute.reader
          (fun attrs extended => attrs.extended = some extended) count rest
          ((Attributes.readerFor flags).run bytes) := by
  constructor
  · intro read
    have smallest : ∃ entry, NameEntry.layout.Fits entry ∧ entry.bytes.length = 12 :=
      ⟨⟨[], [], .empty⟩, ⟨by decide, by decide, nofun⟩, by decide⟩
    exact NameEntry.reader_reads.countBounded NameEntry.layout_closed NameEntry.layout_atLeast
      (by decide) smallest Response.name (fun _ => rfl) (Response.run_nameReader read)
  · intro flags up read
    have smallest : ∃ attr, ExtendedAttribute.layout.Fits attr ∧ attr.bytes.length = 8 :=
      ⟨⟨[], []⟩, ⟨by decide, by decide⟩, by decide⟩
    obtain ⟨make, made, run⟩ := Attributes.exists_run_readerFor up read
    exact ExtendedAttribute.reader_reads.countBounded ExtendedAttribute.layout_closed
      ExtendedAttribute.layout_atLeast (by decide) smallest make made run

/-- A listing of one file with a byte to spare, a listing that claims the largest count and holds
nothing, and attributes with a size that claim two attributes of other kinds and hold one. -/
theorem counts_bounded_sample :
    (∃ entries : List NameEntry,
      Response.nameReader.run ([0, 0, 0, 1] ++ List.replicate 13 0) = .done (.name entries) [0] ∧
        entries.length = 1 ∧ Reader.room 12 1 (List.replicate 13 0) = 1) ∧
      (Response.nameReader.run [255, 255, 255, 255]).toExcept = .error .short ∧
      12 * Reader.room 12 4294967295 [] ≤ 0 ∧
      ((Attributes.readerFor 0x80000001).run
        ([0, 0, 0, 0, 0, 0, 0, 9] ++ [0, 0, 0, 2] ++ List.replicate 15 0)).toExcept =
          .error .short := by
  have one := (counts_bounded ([0, 0, 0, 1] ++ List.replicate 13 0) (List.replicate 13 0) 1).1 rfl
  have none := (counts_bounded [255, 255, 255, 255] [] 4294967295).1 rfl
  have two := (counts_bounded ([0, 0, 0, 0, 0, 0, 0, 9] ++ [0, 0, 0, 2] ++ List.replicate 15 0)
    (List.replicate 15 0) 2).2 0x80000001 (by decide) rfl
  obtain ⟨entries, made, length, -, room⟩ := one.done (.name [⟨[], [], .empty⟩]) [0] rfl
  cases made
  exact ⟨⟨_, rfl, length, room⟩, none.short (by decide), none.room_le, two.short (by decide)⟩

end SftpWire
