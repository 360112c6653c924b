import Mathlib.Data.List.TakeDrop
import SftpWire.Toml.Scan

/-!
What scans give. A property of all that a scan can give is carried through the ways in which scans
are put together, whatever text they scan and wherever they stop (`Scan.Gives`). What a scan makes
of one text is found by the laws that take it apart at that text.
-/

namespace SftpWire.Toml.Scan

variable {α β : Type} {P : α → Prop} {Q : β → Prop}

/-- All that a scan can give has a property. -/
def Gives (P : α → Prop) (scan : Scan α) : Prop :=
  ∀ text value rest, scan text = some (value, rest) → P value

theorem gives_true (scan : Scan α) : Gives (fun _ => True) scan :=
  fun _ _ _ _ => trivial

theorem gives_pure {value : α} (isP : P value) : Gives P (pure value) := by
  rintro text value' rest ⟨⟩
  exact isP

theorem Gives.bind {scan : Scan α} {next : α → Scan β} (gives : Gives P scan)
    (after : ∀ value, P value → Gives Q (next value)) : Gives Q (scan >>= next) := by
  intro text value rest given
  obtain ⟨⟨first, middle⟩, isFirst, isValue⟩ := Option.bind_eq_some_iff.1 given
  exact after first (gives _ _ _ isFirst) _ _ _ isValue

/-- What the last of two scans gives, whatever the first does. -/
theorem gives_bind {scan : Scan α} {next : α → Scan β} (after : ∀ value, Gives Q (next value)) :
    Gives Q (scan >>= next) :=
  (gives_true scan).bind fun value _ => after value

theorem gives_map {f : α → β} {scan : Scan α} (gives : Gives (fun value => Q (f value)) scan) :
    Gives Q (f <$> scan) := by
  rw [map_eq_pure_bind]
  exact gives.bind fun _ isQ => gives_pure isQ

theorem gives_seqRight {scan : Scan β} {next : Scan α} (gives : Gives P next) :
    Gives P (scan *> next) := by
  rw [seqRight_eq_bind]
  exact gives_bind fun _ => gives

theorem gives_seqLeft {scan : Scan α} (gives : Gives P scan) (next : Scan β) :
    Gives P (scan <* next) := by
  rw [seqLeft_eq_bind]
  exact gives.bind fun _ isP => gives_bind fun _ => gives_pure isP

theorem gives_orElse {first second : Scan α} (gives : Gives P first) (gives' : Gives P second) :
    Gives P (first <|> second) := by
  intro text value rest given
  have either : (first text <|> second text) = some (value, rest) := given
  cases isFirst : first text with
  | none =>
    rw [isFirst] at either
    exact gives' text value rest either
  | some result =>
    rw [isFirst] at either
    exact gives text value rest (isFirst.trans either)

theorem gives_optional {scan : Scan α} (gives : Gives P scan) :
    Gives (fun value => ∀ inner ∈ value, P inner) (optional scan) := by
  refine gives_orElse (gives_map ?_) (gives_pure nofun)
  rintro text value rest given _ ⟨⟩
  exact gives text value rest given

theorem gives_ofOption {value : Option α} (gives : ∀ inner ∈ value, P inner) :
    Gives P (ofOption value) := by
  intro text inner rest given
  obtain ⟨found, isFound, ⟨⟩⟩ := Option.map_eq_some_iff.1 given
  exact gives inner isFound

theorem gives_many {scan : Scan α} (gives : Gives P scan) :
    Gives (fun values => ∀ value ∈ values, P value) (many scan) := by
  have within (bound text : List Char) : ∀ value ∈ (manyWithin scan bound text).1, P value := by
    induction bound generalizing text with
    | nil => nofun
    | cons c bound ih =>
      rw [manyWithin]
      split
      · nofun
      · next value rest isFirst =>
        exact List.forall_mem_cons.2 ⟨gives text value rest isFirst, ih rest⟩
  intro text values rest given
  obtain rfl := congrArg Prod.fst (Option.some.inj given)
  exact within text text

theorem gives_separated {scan : Scan α} (gives : Gives P scan) (separator : Scan β) :
    Gives (fun values => ∀ value ∈ values, P value) (separated scan separator) :=
  gives.bind fun _ isFirst =>
    (gives_many (gives_bind fun _ => gives)).bind fun _ areMore =>
      gives_pure (List.forall_mem_cons.2 ⟨isFirst, areMore⟩)

/-! ## At one text -/

section

variable (scan : Scan α) (text : List Char)

theorem bind_apply (next : α → Scan β) :
    (scan >>= next) text = (scan text).bind fun result => next result.1 result.2 :=
  rfl

theorem pure_apply (value : α) : (pure value : Scan α) text = some (value, text) :=
  rfl

theorem map_apply (f : α → β) :
    (f <$> scan) text = (scan text).map fun result => (f result.1, result.2) := by
  rw [map_eq_pure_bind]
  show (scan text).bind _ = _
  cases scan text with
  | none => rfl
  | some result => rfl

theorem discard_apply :
    discard scan text = (scan text).map fun result => ((), result.2) :=
  map_apply scan text fun _ => ()

theorem orElse_apply (other : Scan α) : (scan <|> other) text = (scan text <|> other text) :=
  rfl

theorem optional_apply :
    optional scan text =
      some (match scan text with
        | some result => (some result.1, result.2)
        | none => (none, text)) := by
  show ((some <$> scan <|> pure none : Scan (Option α)) text) = _
  rw [orElse_apply, map_apply]
  cases scan text with
  | none => rfl
  | some result => rfl

end

theorem one_cons (accepts : Char → Bool) (c : Char) (rest : List Char) :
    one accepts (c :: rest) = if accepts c then some (c, rest) else none :=
  rfl

theorem char_cons (c d : Char) (rest : List Char) :
    char c (d :: rest) = if d = c then some ((), rest) else none := by
  rw [char, discard_apply, one_cons]
  by_cases same : d = c
  · simp [same]
  · simp [same]

/-- A run takes what it accepts up to what it does not. -/
theorem run_append {accepts : Char → Bool} {front rest : List Char}
    (accepted : ∀ c ∈ front, accepts c = true) (stops : ∀ c ∈ rest.head?, accepts c = false) :
    run accepts (front ++ rest) = some (front, rest) := by
  have taken : rest.takeWhile accepts = [] ∧ rest.dropWhile accepts = rest := by
    cases rest with
    | nil => exact ⟨rfl, rfl⟩
    | cons c rest => simp [stops c rfl]
  rw [run, List.span_eq_takeWhile_dropWhile, List.takeWhile_append_of_pos accepted,
    List.dropWhile_append_of_pos accepted, taken.1, taken.2, List.append_nil]

theorem run_eq_nil {accepts : Char → Bool} {text : List Char}
    (stops : ∀ c ∈ text.head?, accepts c = false) : run accepts text = some ([], text) :=
  @run_append accepts [] text nofun stops

theorem run₁_append {accepts : Char → Bool} {front rest : List Char} (some : front ≠ [])
    (accepted : ∀ c ∈ front, accepts c = true) (stops : ∀ c ∈ rest.head?, accepts c = false) :
    run₁ accepts (front ++ rest) = Option.some (front, rest) := by
  cases front with
  | nil => exact absurd rfl some
  | cons c front =>
    obtain ⟨first, others⟩ := List.forall_mem_cons.1 accepted
    rw [run₁, bind_apply, List.cons_append, one_cons, if_pos first, Option.bind_some, bind_apply,
      run_append others stops]
    rfl

/-- A scan that fails at a text gives nothing, however often it may be made. -/
theorem many_of_none {scan : Scan α} {text : List Char} (failed : scan text = none) :
    many scan text = some ([], text) := by
  rw [many]
  cases text with
  | nil => rfl
  | cons c text => simp only [manyWithin, failed]

end SftpWire.Toml.Scan
