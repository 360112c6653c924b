import SftpWire.Proofs.Attributes.Cells

/-!
Attributes after any number of changes. A change looks after one attribute, its flag and its cells,
and leaves the others and the flags with no meaning alone (`Cells.part_apply_self`,
`Cells.part_apply_of_ne`, `Cells.unknown_apply`). So of a whole history only the last change of each
attribute can be seen afterwards. Main statement: `edit_history`.
-/

namespace SftpWire.Attributes

open AttributeFlag (known)

/-! ## The last change -/

/-- The last of the changes that is of the given attribute. -/
def last? (aspect : Aspect) (edits : List Edit) : Option Edit :=
  edits.reverse.find? fun edit => edit.aspect == aspect

variable {aspect : Aspect} {edit : Edit} {edits : List Edit}

theorem last?_append (aspect : Aspect) (before after : List Edit) :
    last? aspect (before ++ after) = (last? aspect after).or (last? aspect before) := by
  simp only [last?, List.reverse_append, List.find?_append]

theorem last?_cons (aspect : Aspect) (edit : Edit) (edits : List Edit) :
    last? aspect (edit :: edits) =
      (last? aspect edits).or (if edit.aspect = aspect then some edit else none) := by
  rw [← List.singleton_append, last?_append]
  by_cases same : edit.aspect = aspect <;> simp [last?, same]

theorem mem_of_last? (isLast : last? aspect edits = some edit) :
    edit ∈ edits ∧ edit.aspect = aspect := by
  constructor
  · exact List.mem_reverse.1 (List.mem_of_find?_eq_some isLast)
  · simpa using List.find?_some isLast

theorem aspect_ne_of_last?_eq_none (none : last? aspect edits = none) (member : edit ∈ edits) :
    edit.aspect ≠ aspect := by
  have all := List.find?_eq_none.1 none edit (List.mem_reverse.2 member)
  simpa using all

/-! ## One change -/

namespace Cells

/-- What a change leaves of its attribute does not depend on what was there. -/
theorem part_apply_self (cells cells' : Cells) (edit : Edit) :
    (cells.apply edit).part edit.aspect = (cells'.apply edit).part edit.aspect := by
  rcases edit.apply_cases with ⟨value, -, set⟩ | ⟨-, clear⟩
  · rw [set, set, part_set_self, part_set_self]
  · rw [clear, clear, part_clear_self, part_clear_self]

theorem part_apply_of_ne (cells : Cells) (ne : edit.aspect ≠ aspect) :
    (cells.apply edit).part aspect = cells.part aspect := by
  rcases edit.apply_cases with ⟨value, -, set⟩ | ⟨-, clear⟩
  · rw [set, part_set_of_ne value ne]
  · rw [clear, part_clear_of_ne ne]

theorem unknown_apply (cells : Cells) (edit : Edit) :
    (cells.apply edit).flags &&& ~~~known = cells.flags &&& ~~~known := by
  rcases edit.apply_cases with ⟨value, -, set⟩ | ⟨-, clear⟩
  · rw [set, unknown_set]
  · rw [clear, unknown_clear]

/-! ## A history -/

/-- An attribute is as its last change alone leaves it, or as it was if there was none. -/
theorem part_edit (cells : Cells) (edits : List Edit) (aspect : Aspect) :
    (cells.edit edits).part aspect =
      match last? aspect edits with
      | some edit => (apply {} edit).part aspect
      | none => cells.part aspect := by
  induction edits generalizing cells with
  | nil => rfl
  | cons edit edits ih =>
    rw [edit_cons, ih, last?_cons]
    -- A later change of the attribute hides this one.
    cases last? aspect edits with
    | some later => rfl
    | none =>
      by_cases same : edit.aspect = aspect
      · subst same
        simp [part_apply_self cells {} edit]
      · simp [same, part_apply_of_ne cells same]

theorem unknown_edit (cells : Cells) (edits : List Edit) :
    (cells.edit edits).flags &&& ~~~known = cells.flags &&& ~~~known := by
  induction edits generalizing cells with
  | nil => rfl
  | cons edit edits ih =>
    rw [edit_cons, ih, unknown_apply]

theorem part_clear_empty (aspect : Aspect) :
    (apply {} (.clear aspect)).part aspect = ({} : Cells).part aspect := by
  cases aspect <;> rfl

end Cells

theorem Edit.aspect_clear (aspect : Aspect) : (Edit.clear aspect).aspect = aspect := by
  cases aspect <;> rfl

theorem eq_clear_of_last? {clears : List Aspect}
    (isLast : last? aspect (clears.map .clear) = some edit) : edit = .clear aspect := by
  obtain ⟨member, isAspect⟩ := mem_of_last? isLast
  obtain ⟨other, -, rfl⟩ := List.mem_map.1 member
  rw [Edit.aspect_clear] at isAspect
  rw [isAspect]

/-- Attributes of which all that is there is taken out have nothing left but flags with no
meaning. -/
theorem part_edit_clear (attrs : Attributes) {clears : List Aspect}
    (cleared : ∀ aspect : Aspect, attrs.flags &&& aspect.flag ≠ 0 → aspect ∈ clears)
    (aspect : Aspect) :
    (attrs.edit (clears.map .clear)).cells.part aspect = ({} : Cells).part aspect := by
  rw [cells_edit, Cells.part_edit]
  cases isLast : last? aspect (clears.map .clear) with
  | some edit =>
    rw [eq_clear_of_last? isLast]
    exact Cells.part_clear_empty aspect
  | none =>
    have down : attrs.flags &&& aspect.flag = 0 := by
      by_cases down : attrs.flags &&& aspect.flag = 0
      · exact down
      · have member := List.mem_map_of_mem (f := Edit.clear) (cleared aspect down)
        exact absurd (Edit.aspect_clear aspect) (aspect_ne_of_last?_eq_none isLast member)
    show (attrs.flags &&& aspect.flag, attrs.cells.value aspect) = _
    rw [down, cells_clean attrs down]
    cases aspect <;> rfl

/-- Attributes after a history. Every change did to the flag word and the cells what it does to
them; nothing is kept where a flag is down; the flags with no meaning are those of the start; and an
attribute, its flag and its cells, is as its last change alone leaves it. -/
structure Follows (start : Attributes) (edits : List Edit) (result : Attributes) : Prop where
  cells_eq : result.cells = start.cells.edit edits
  clean : ∀ aspect : Aspect, result.flags &&& aspect.flag = 0 →
    result.cells.value aspect = aspect.zero
  unknown_eq : result.flags &&& ~~~known = start.flags &&& ~~~known
  part_eq : ∀ aspect, result.cells.part aspect =
    match last? aspect edits with
    | some edit => (Cells.apply {} edit).part aspect
    | none => start.cells.part aspect

/-- Of a history of changes only the last one of each attribute can be seen, whether it began with
new attributes or with attributes from the wire. -/
theorem edit_history :
    (empty.cells = {} ∧
      ∀ bytes, Cells.reader.run bytes = (cells <$> reader).run bytes) ∧
    (∀ (start : Attributes) (edits : List Edit), Follows start edits (start.edit edits)) ∧
    (∀ (start : Attributes) (edits edits' : List Edit),
      (∀ aspect, last? aspect edits = last? aspect edits') →
        start.edit edits = start.edit edits' ∧
          (start.edit edits).bytes = (start.edit edits').bytes) ∧
    ∀ (edits : List Edit) (clears : List Aspect),
      (∀ aspect : Aspect, (empty.edit edits).flags &&& aspect.flag ≠ 0 → aspect ∈ clears) →
        (empty.edit edits).edit (clears.map .clear) = empty := by
  have follows (start : Attributes) (edits : List Edit) :
      Follows start edits (start.edit edits) := by
    refine ⟨cells_edit start edits, fun aspect => cells_clean _, ?_, ?_⟩
    · have unknown := start.cells.unknown_edit edits
      rw [← cells_edit] at unknown
      exact unknown
    · intro aspect
      rw [cells_edit]
      exact Cells.part_edit ..
  refine ⟨⟨rfl, Cells.run_reader⟩, follows, ?_, ?_⟩
  · intro start edits edits' same
    have equal : start.edit edits = start.edit edits' := by
      apply cells_injective
      apply Cells.ext_of_part
      · intro aspect
        rw [(follows start edits).part_eq, (follows start edits').part_eq, same]
      · exact (follows start edits).unknown_eq.trans (follows start edits').unknown_eq.symm
    exact ⟨equal, congrArg bytes equal⟩
  · intro edits clears cleared
    have unknown := (follows (empty.edit edits) (clears.map .clear)).unknown_eq
    apply cells_injective
    apply Cells.ext_of_part
    · exact part_edit_clear (empty.edit edits) cleared
    · exact unknown.trans (follows empty edits).unknown_eq

/-- Two histories that set the owner last to the same numbers and take the size out, on attributes
with a size and a flag with no meaning; and new attributes that are changed and then cleared. -/
theorem edit_history_sample :
    Attributes.edit { size := some 9, reserved := 0x10 }
        [.setOwner 1 2, .clearSize, .setOwner 3 4] =
      Attributes.edit { size := some 9, reserved := 0x10 }
        [.setOwner 3 4, .setSize 5, .clearSize] ∧
    (Attributes.edit { size := some 9, reserved := 0x10 }
        [.setOwner 1 2, .clearSize, .setOwner 3 4]).cells =
      { flags := 0x12, user := 3, group := 4 } ∧
    (empty.edit [.setSize 5, .setOwner 1 2, .clearOwner]).edit [.clearSize] = empty := by
  obtain ⟨-, follows, interleaved, cleared⟩ := edit_history
  have same := interleaved { size := some 9, reserved := 0x10 }
    [.setOwner 1 2, .clearSize, .setOwner 3 4] [.setOwner 3 4, .setSize 5, .clearSize]
    (by intro aspect; cases aspect <;> rfl)
  have kept := follows { size := some 9, reserved := 0x10 }
    [.setOwner 1 2, .clearSize, .setOwner 3 4]
  have new := cleared [.setSize 5, .setOwner 1 2, .clearOwner] [.size]
    (by intro aspect; cases aspect <;> decide)
  exact ⟨same.1, kept.cells_eq.trans (by decide), new⟩

end SftpWire.Attributes
