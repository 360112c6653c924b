import SftpWire.Attributes.Cells
import SftpWire.Proofs.Attributes.Layout

/-!
Flags and cells are looked after together. `cells_edit`, `bytes_cells`, `wireSize_cells` and
`Cells.run_reader` say so: changing cells, writing them, reckoning their size and filling them from
the wire is what doing so with `Attributes` is. So what can be got at all is what `Attributes` can
be (`Cells.reachable_iff`), and a cell whose flag is down is empty (`cells_clean`).
-/

namespace SftpWire.Attributes

open AttributeFlag (known)

/-! ## The five attributes -/

namespace Aspect

variable {aspect other : Aspect}

theorem flag_ne_zero (aspect : Aspect) : aspect.flag ≠ 0 := by
  cases aspect <;> decide

theorem flag_and_flag_of_ne (ne : aspect ≠ other) : aspect.flag &&& other.flag = 0 := by
  revert ne
  cases aspect <;> cases other <;> decide

theorem flag_and_unknown (aspect : Aspect) : aspect.flag &&& ~~~known = 0 := by
  cases aspect <;> rfl

theorem not_flag_and_flag_of_ne (ne : aspect ≠ other) :
    ~~~aspect.flag &&& other.flag = other.flag := by
  revert ne
  cases aspect <;> cases other <;> decide

theorem not_flag_and_unknown (aspect : Aspect) : ~~~aspect.flag &&& ~~~known = ~~~known := by
  cases aspect <;> rfl

end Aspect

/-- A flag that has been raised is up. -/
theorem or_and_self (word flag : UInt32) : (word ||| flag) &&& flag = flag := by
  rw [← UInt32.toBitVec_inj]
  ext i
  simp +contextual

/-- An attribute, if it is there. -/
def get (attrs : Attributes) : (aspect : Aspect) → Option aspect.Value
  | .size => attrs.size
  | .owner => attrs.owner
  | .permissions => attrs.permissions
  | .times => attrs.times
  | .extended => attrs.extended

/-- The attributes with one of them put in or, for `none`, taken out. -/
def put (attrs : Attributes) : (aspect : Aspect) → Option aspect.Value → Attributes
  | .size, size => { attrs with size }
  | .owner, owner => { attrs with owner }
  | .permissions, permissions => { attrs with permissions }
  | .times, times => { attrs with times }
  | .extended, extended => { attrs with extended }

theorem get_put_self (attrs : Attributes) (aspect : Aspect) (option : Option aspect.Value) :
    (attrs.put aspect option).get aspect = option := by
  cases aspect <;> rfl

theorem get_put_of_ne (attrs : Attributes) {aspect other : Aspect} (option : Option aspect.Value)
    (ne : aspect ≠ other) : (attrs.put aspect option).get other = attrs.get other := by
  cases aspect <;> cases other <;> try contradiction
  all_goals rfl

theorem reserved_put (attrs : Attributes) (aspect : Aspect) (option : Option aspect.Value) :
    (attrs.put aspect option).reserved = attrs.reserved := by
  cases aspect <;> rfl

theorem flags_and_flag (attrs : Attributes) (aspect : Aspect) :
    attrs.flags &&& aspect.flag = flagIf (attrs.get aspect).isSome aspect.flag := by
  cases aspect with
  | size => exact attrs.flags_and_size
  | owner => exact attrs.flags_and_owner
  | permissions => exact attrs.flags_and_permissions
  | times => exact attrs.flags_and_times
  | extended => exact attrs.flags_and_extended

/-! ## Cells -/

namespace Cells

/-- The flag and the cells of one attribute. -/
def part (cells : Cells) (aspect : Aspect) : UInt32 × aspect.Value :=
  (cells.flags &&& aspect.flag, cells.value aspect)

variable {cells cells' : Cells} {aspect other : Aspect}

theorem edit_cons (cells : Cells) (edit : Edit) (edits : List Edit) :
    cells.edit (edit :: edits) = (cells.apply edit).edit edits := rfl

theorem value_fill_self (value : aspect.Value) :
    (cells.fill aspect value).value aspect = value := by
  cases aspect <;> rfl

theorem value_fill_of_ne (value : aspect.Value) (ne : aspect ≠ other) :
    (cells.fill aspect value).value other = cells.value other := by
  cases aspect <;> cases other <;> try contradiction
  all_goals rfl

@[simp] theorem value_with_flags (flags : UInt32) :
    ({ cells with flags } : Cells).value aspect = cells.value aspect := by
  cases aspect <;> rfl

theorem part_set_self (value : aspect.Value) :
    (cells.set aspect value).part aspect = (aspect.flag, value) := by
  simp [part, set, value_fill_self, or_and_self]

theorem part_set_of_ne (value : aspect.Value) (ne : aspect ≠ other) :
    (cells.set aspect value).part other = cells.part other := by
  simp [part, set, value_fill_of_ne _ ne, Word.or_and, Aspect.flag_and_flag_of_ne ne]

theorem part_clear_self : (cells.clear aspect).part aspect = (0, aspect.zero) := by
  simp [part, clear, value_fill_self, UInt32.and_assoc]

theorem part_clear_of_ne (ne : aspect ≠ other) :
    (cells.clear aspect).part other = cells.part other := by
  simp [part, clear, value_fill_of_ne _ ne, UInt32.and_assoc, Aspect.not_flag_and_flag_of_ne ne]

theorem unknown_set (value : aspect.Value) :
    (cells.set aspect value).flags &&& ~~~known = cells.flags &&& ~~~known := by
  simp [set, Word.or_and, Aspect.flag_and_unknown]

theorem unknown_clear : (cells.clear aspect).flags &&& ~~~known = cells.flags &&& ~~~known := by
  simp only [clear, UInt32.and_assoc, Aspect.not_flag_and_unknown]

/-- Cells are the parts of the attributes and the flags that have no meaning. -/
theorem ext_of_part (parts : ∀ aspect, cells.part aspect = cells'.part aspect)
    (unknown : cells.flags &&& ~~~known = cells'.flags &&& ~~~known) : cells = cells' := by
  have flag (aspect : Aspect) : cells.flags &&& aspect.flag = cells'.flags &&& aspect.flag :=
    congrArg Prod.fst (parts aspect)
  have value (aspect : Aspect) : cells.value aspect = cells'.value aspect :=
    congrArg Prod.snd (parts aspect)
  have flags : cells.flags = cells'.flags := by
    have size : cells.flags &&& AttributeFlag.size = _ := flag .size
    have owner : cells.flags &&& AttributeFlag.owner = _ := flag .owner
    have permissions : cells.flags &&& AttributeFlag.permissions = _ := flag .permissions
    have times : cells.flags &&& AttributeFlag.times = _ := flag .times
    have extended : cells.flags &&& AttributeFlag.extended = _ := flag .extended
    rw [← word_eq cells.flags, unknown, size, owner, permissions, times, extended]
    exact word_eq cells'.flags
  have owner : (cells.user, cells.group) = (cells'.user, cells'.group) := value .owner
  have times : (cells.access, cells.change) = (cells'.access, cells'.change) := value .times
  simp only [Prod.mk.injEq] at owner times
  cases cells
  cases cells'
  simp only [mk.injEq]
  exact ⟨flags, value .size, owner.1, owner.2, value .permissions, times.1, times.2,
    value .extended⟩

end Cells

/-! ## The cells of attributes -/

variable {attrs attrs' : Attributes} {aspect : Aspect}

theorem value_cells (attrs : Attributes) (aspect : Aspect) :
    attrs.cells.value aspect = (attrs.get aspect).getD aspect.zero := by
  cases aspect <;> rfl

theorem part_cells (attrs : Attributes) (aspect : Aspect) :
    attrs.cells.part aspect =
      (flagIf (attrs.get aspect).isSome aspect.flag, (attrs.get aspect).getD aspect.zero) := by
  rw [Cells.part, value_cells]
  exact congrArg (Prod.mk · _) (attrs.flags_and_flag aspect)

/-- Where a flag is down, nothing is kept. -/
theorem cells_clean (attrs : Attributes) (down : attrs.flags &&& aspect.flag = 0) :
    attrs.cells.value aspect = aspect.zero := by
  rw [flags_and_flag] at down
  rw [value_cells]
  cases isThere : attrs.get aspect with
  | none => rfl
  | some value =>
    rw [isThere] at down
    exact absurd down aspect.flag_ne_zero

/-- Attributes that are kept alike are the same. -/
theorem cells_injective (same : attrs.cells = attrs'.cells) : attrs = attrs' := by
  have option (aspect : Aspect) : attrs.get aspect = attrs'.get aspect := by
    have part := congrArg (Cells.part · aspect) same
    simp only [part_cells, Prod.mk.injEq] at part
    have nonzero := aspect.flag_ne_zero
    cases isThere : attrs.get aspect <;> cases isThere' : attrs'.get aspect <;>
      simp_all [flagIf, eq_comm]
  have reserved : attrs.reserved = attrs'.reserved := by
    have flags : attrs.flags = attrs'.flags := congrArg Cells.flags same
    rw [← flags_and_unknown, flags, flags_and_unknown]
  cases attrs
  cases attrs'
  simp only [mk.injEq]
  exact ⟨option .size, option .owner, option .permissions, option .times, option .extended,
    reserved⟩

/-- Cells in which one attribute is as given, and the others and the flags with no meaning are as
they were, are those of the attributes with that one put in or taken out. -/
theorem cells_put_eq {option : Option aspect.Value} {after : Cells}
    (self : after.part aspect = (flagIf option.isSome aspect.flag, option.getD aspect.zero))
    (others : ∀ other, aspect ≠ other → after.part other = attrs.cells.part other)
    (unknown : after.flags &&& ~~~known = attrs.cells.flags &&& ~~~known) :
    (attrs.put aspect option).cells = after := by
  apply Cells.ext_of_part
  · intro other
    by_cases same : aspect = other
    · subst same
      rw [part_cells, get_put_self, self]
    · rw [part_cells, get_put_of_ne _ _ same, others other same, part_cells]
  · have reserved := (attrs.put aspect option).flags_and_unknown
    rw [reserved_put, ← flags_and_unknown] at reserved
    exact reserved.trans unknown.symm

theorem cells_put_some (value : aspect.Value) :
    (attrs.put aspect (some value)).cells = attrs.cells.set aspect value :=
  cells_put_eq (Cells.part_set_self value) (fun _ => Cells.part_set_of_ne value)
    (Cells.unknown_set value)

theorem cells_put_none : (attrs.put aspect none).cells = attrs.cells.clear aspect :=
  cells_put_eq Cells.part_clear_self (fun _ => Cells.part_clear_of_ne) Cells.unknown_clear

/-! ## Changes -/

/-- What a change can do: it puts a value in or takes what is there out, and it does the same to
the cells. -/
theorem Edit.apply_cases (edit : Edit) :
    (∃ value : edit.aspect.Value,
      (∀ attrs, edit.apply attrs = attrs.put edit.aspect (some value)) ∧
        ∀ cells : Cells, cells.apply edit = cells.set edit.aspect value) ∨
    (∀ attrs, edit.apply attrs = attrs.put edit.aspect none) ∧
      ∀ cells : Cells, cells.apply edit = cells.clear edit.aspect := by
  cases edit with
  | setSize size => exact .inl ⟨size, fun _ => rfl, fun _ => rfl⟩
  | setOwner user group => exact .inl ⟨(user, group), fun _ => rfl, fun _ => rfl⟩
  | setPermissions mode => exact .inl ⟨mode, fun _ => rfl, fun _ => rfl⟩
  | setTimes access change => exact .inl ⟨(access, change), fun _ => rfl, fun _ => rfl⟩
  | setExtended extended => exact .inl ⟨extended, fun _ => rfl, fun _ => rfl⟩
  | _ => exact .inr ⟨fun _ => rfl, fun _ => rfl⟩

theorem cells_apply (attrs : Attributes) (edit : Edit) :
    (edit.apply attrs).cells = attrs.cells.apply edit := by
  rcases edit.apply_cases with ⟨value, put, set⟩ | ⟨put, clear⟩
  · rw [put, set, cells_put_some]
  · rw [put, clear, cells_put_none]

theorem edit_cons (attrs : Attributes) (edit : Edit) (edits : List Edit) :
    attrs.edit (edit :: edits) = (edit.apply attrs).edit edits := rfl

/-- Changing attributes is changing what is kept of them. -/
theorem cells_edit (attrs : Attributes) (edits : List Edit) :
    (attrs.edit edits).cells = attrs.cells.edit edits := by
  induction edits generalizing attrs with
  | nil => rfl
  | cons edit edits ih =>
    rw [edit_cons, Cells.edit_cons, ih, cells_apply]

/-! ## Writing -/

/-- What counts under a flag is what counts if the attribute is there. -/
theorem under_flag {β : Type} (attrs : Attributes) (aspect : Aspect) (absent : β)
    (present : aspect.Value → β) :
    attrs.cells.under aspect.flag absent (present (attrs.cells.value aspect)) =
      (attrs.get aspect).elim absent present := by
  have up : attrs.cells.flags &&& aspect.flag = flagIf (attrs.get aspect).isSome aspect.flag :=
    attrs.flags_and_flag aspect
  rw [Cells.under, up, value_cells]
  cases attrs.get aspect with
  | none => rfl
  | some value => exact if_neg aspect.flag_ne_zero

theorem present_eq_elim {α : Type} (write : α → Bytes) (option : Option α) :
    present write option = option.elim [] write := by
  cases option <;> rfl

theorem sizeIf_eq_elim {α : Type} (size : α → Nat) (option : Option α) :
    sizeIf size option = option.elim 0 size := by
  cases option <;> rfl

/-- Writing cells is writing attributes. -/
theorem bytes_cells (attrs : Attributes) : attrs.cells.bytes = attrs.bytes := by
  have size := attrs.under_flag .size [] Bytes.ofWord64
  have owner := attrs.under_flag .owner [] pairBytes
  have permissions := attrs.under_flag .permissions [] fun mode => Bytes.ofWord32 mode.word
  have times := attrs.under_flag .times [] pairBytes
  have extended := attrs.under_flag .extended [] extendedBytes
  simp only [Aspect.flag, Cells.value, get, pairBytes] at size owner permissions times extended
  simp only [Cells.bytes, bytes, fieldBytes, present_eq_elim, size, owner, permissions, times,
    extended]
  rfl

theorem wireSize_cells (attrs : Attributes) : attrs.cells.wireSize = attrs.wireSize := by
  have size := attrs.under_flag .size 0 fun _ => 8
  have owner := attrs.under_flag .owner 0 fun _ => 8
  have permissions := attrs.under_flag .permissions 0 fun _ => 4
  have times := attrs.under_flag .times 0 fun _ => 8
  have extended := attrs.under_flag .extended 0 fun extended =>
    4 + Bytes.rowSize ExtendedAttribute.wireSize extended
  simp only [Aspect.flag, Cells.value, get] at size owner permissions times extended
  simp only [Cells.wireSize, wireSize, sizeIf_eq_elim, size, owner, permissions, times, extended]
  rfl

/-! ## Reading -/

theorem Cells.run_readerOr {α : Type} (flags flag : UInt32) (reader : Reader α) (absent : α)
    (bytes : Bytes) :
    (readerOr flags flag reader absent).run bytes =
      ((readerIf flags flag reader).run bytes).bind fun option rest =>
        .done (option.getD absent) rest := by
  unfold readerOr readerIf
  split
  · rfl
  · cases run : reader.run bytes <;> simp [run]

theorem Cells.run_readerFor (flags : UInt32) (bytes : Bytes) :
    (Cells.readerFor flags).run bytes = (cells <$> Attributes.readerFor flags).run bytes := by
  -- Both read the same fields; what is left to see is that the flags kept are those of the fields.
  have same : (Cells.readerFor flags).run bytes =
      ((fun attrs : Attributes => { attrs.cells with flags }) <$>
        Attributes.readerFor flags).run bytes := by
    simp only [Cells.readerFor, Attributes.readerFor, Reader.run_bind, Reader.run_map,
      Cells.run_readerOr, Reader.run_pure, Outcome.bind_assoc, Outcome.bind_done]
    rfl
  rw [same, Reader.run_map, Reader.run_map]
  cases run : (Attributes.readerFor flags).run bytes with
  | short rest => rfl
  | done attrs rest =>
    obtain ⟨rfl, -⟩ := run_readerFor_eq_done.1 run
    rfl

/-- Filling cells from the wire is reading attributes. -/
theorem Cells.run_reader (bytes : Bytes) :
    Cells.reader.run bytes = (cells <$> Attributes.reader).run bytes := by
  simp only [Cells.reader, Attributes.reader, Reader.run_bind, Reader.run_map, Cells.run_readerFor]
  cases Reader.word32.run bytes <;> rfl

/-! ## What can be got -/

/-- What new attributes, attributes from the wire and changes lead to. -/
inductive Cells.Reachable : Cells → Prop
  | new : Reachable {}
  | read {bytes rest : Bytes} {cells : Cells} (run : Cells.reader.run bytes = .done cells rest) :
    Reachable cells
  | changed {cells : Cells} (edit : Edit) (reachable : Reachable cells) :
    Reachable (cells.apply edit)

theorem Cells.Reachable.put (reachable : attrs.cells.Reachable) (aspect : Aspect)
    (option : Option aspect.Value) : (attrs.put aspect option).cells.Reachable := by
  cases option with
  | none =>
    rw [cells_put_none]
    have changed := reachable.changed (.clear aspect)
    cases aspect <;> exact changed
  | some value =>
    rw [cells_put_some]
    have changed := reachable.changed (.set aspect value)
    cases aspect <;> exact changed

/-- Attributes that have nothing but flags with no meaning come off the wire. -/
theorem reachable_reserved (reserved : UInt32) (apart : reserved &&& known = 0) :
    (cells { reserved, reserved_known := apart }).Reachable := by
  let attrs : Attributes := { reserved, reserved_known := apart }
  have run : reader.run attrs.bytes = .done attrs [] :=
    (reader_reads ..).2 ⟨(List.append_nil _).symm, nofun, nofun⟩
  have filled : Cells.reader.run attrs.bytes = .done attrs.cells [] := by
    rw [Cells.run_reader, Reader.run_map, run]
    rfl
  exact .read filled

/-- Whatever is kept is kept of attributes, and all attributes can be got. -/
theorem Cells.reachable_iff {cells : Cells} :
    cells.Reachable ↔ ∃ attrs : Attributes, attrs.cells = cells := by
  constructor
  · intro reachable
    induction reachable with
    | new => exact ⟨.empty, rfl⟩
    | read run =>
      rw [Cells.run_reader, Reader.run_map, Outcome.bind_eq_done] at run
      obtain ⟨attrs, middle, -, made⟩ := run
      cases made
      exact ⟨attrs, rfl⟩
    | changed edit _ ih =>
      obtain ⟨attrs, rfl⟩ := ih
      exact ⟨edit.apply attrs, cells_apply attrs edit⟩
  · rintro ⟨attrs, rfl⟩
    have blank := reachable_reserved attrs.reserved attrs.reserved_known
    exact ((((blank.put .size attrs.size).put .owner attrs.owner).put .permissions
      attrs.permissions).put .times attrs.times).put .extended attrs.extended

end SftpWire.Attributes
