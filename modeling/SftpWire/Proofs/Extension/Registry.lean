import SftpWire.Extension.Registry
import SftpWire.Proofs.Text.Utf8

/-!
Registries after any history. What a name means follows from the registrations in the order in which
they were made: the last one of the name counts, and without one what was there from the start.
`Resolves` says so as a rule of its own, and `resolves_iff` that this is what a search finds that
begins with the latest entry. Names are texts, and texts are told apart by their bytes, so a name on
the wire is never mistaken for another. It does not matter here what names are registered with.
-/

namespace SftpWire.Registry

variable {κ : Type} {registrations entries known : List (String × κ)} {fallback value : κ}
  {name : Bytes}

/-! ## The rule -/

/-- The registration of a name after which there was no other of that name. -/
def Latest (registrations : List (String × κ)) (text : String) (value : κ) : Prop :=
  ∃ earlier later, registrations = earlier ++ (text, value) :: later ∧ text ∉ later.map Prod.fst

/-- No registration has a name with these bytes. -/
def Absent (registrations : List (String × κ)) (name : Bytes) : Prop :=
  ∀ entry ∈ registrations, Utf8.ofString entry.1 ≠ name

/-- The names that mean something from the start. -/
def builtin : List (String × PayloadKind) :=
  [("posix-rename@openssh.com", .posixRename), ("statvfs@openssh.com", .statvfs),
   ("hardlink@openssh.com", .hardlink), ("fsync@openssh.com", .fsync)]

/-- What the bytes of a name mean after registrations, where some names are known from the start
and all others mean the same. -/
inductive Resolves (known : List (String × κ)) (fallback : κ) (registrations : List (String × κ))
    (name : Bytes) : κ → Prop where
  | registered {text : String} {value : κ} (spelled : Utf8.ofString text = name)
    (latest : Latest registrations text value) : Resolves known fallback registrations name value
  | known {text : String} {value : κ} (spelled : Utf8.ofString text = name)
    (absent : Absent registrations name) (listed : (text, value) ∈ known) :
    Resolves known fallback registrations name value
  | unknown (absent : Absent registrations name) (unlisted : Absent known name) :
    Resolves known fallback registrations name fallback

/-! ## Finding -/

theorem lookup_append (entries others : List (String × κ)) (name : Bytes) :
    lookup (entries ++ others) name = (lookup entries name).or (lookup others name) := by
  simp only [lookup, List.find?_append, Option.map_or]

theorem lookup_eq_none_iff : lookup entries name = none ↔ Absent entries name := by
  rw [lookup, Option.map_eq_none_iff, List.find?_eq_none]
  simp only [beq_iff_eq]
  rfl

theorem lookup_cons_of_ne {text : String} (other : Utf8.ofString text ≠ name) :
    lookup ((text, value) :: entries) name = lookup entries name := by
  simp only [lookup, List.find?_cons, beq_false_of_ne other]

/-- What is found among registrations, the last of them first, is the latest of the name. -/
theorem lookup_reverse_eq_some_iff :
    lookup registrations.reverse name = some value ↔
      ∃ text, Utf8.ofString text = name ∧ Latest registrations text value := by
  simp only [lookup, Option.map_eq_some_iff, List.find?_eq_some_iff_append, beq_iff_eq,
    Bool.not_eq_true', beq_eq_false_iff_ne]
  constructor
  · rintro ⟨⟨text, _⟩, ⟨spelled, later, earlier, split, others⟩, rfl⟩
    refine ⟨text, spelled, earlier.reverse, later.reverse, ?_, ?_⟩
    · have reversed := congrArg List.reverse split
      simpa using reversed
    · intro member
      obtain ⟨entry, isLater, sameName⟩ := List.mem_map.1 member
      have differs := others entry (List.mem_reverse.1 isLater)
      rw [sameName] at differs
      exact differs spelled
  · rintro ⟨text, spelled, earlier, later, rfl, others⟩
    refine ⟨(text, value), ⟨spelled, later.reverse, earlier.reverse, by simp, ?_⟩, rfl⟩
    intro entry isLater sameBytes
    -- Texts are told apart by their bytes, so the later entry would have the same name.
    have sameName : entry.1 = text := Utf8.ofString_injective (sameBytes.trans spelled.symm)
    exact others (List.mem_map.2 ⟨entry, List.mem_reverse.1 isLater, sameName⟩)

theorem lookup_reverse_eq_none_iff :
    lookup registrations.reverse name = none ↔ Absent registrations name := by
  simp only [lookup_eq_none_iff, Absent, List.mem_reverse]

/-- Where no name stands twice, every registration is the latest of its name. -/
theorem latest_iff_mem (distinct : (registrations.map Prod.fst).Nodup) {text : String} :
    Latest registrations text value ↔ (text, value) ∈ registrations := by
  constructor
  · rintro ⟨earlier, later, rfl, -⟩
    exact List.mem_append_right _ (List.mem_cons_self ..)
  · intro member
    obtain ⟨earlier, later, rfl⟩ := List.append_of_mem member
    rw [List.map_append, List.map_cons] at distinct
    exact ⟨earlier, later, rfl, (List.nodup_cons.1 (List.nodup_append.1 distinct).2.1).1⟩

/-- A registration that is made again later counts for nothing. -/
theorem latest_cons_iff {text text' : String} {value' : κ}
    (again : text' ∈ registrations.map Prod.fst) :
    Latest ((text', value') :: registrations) text value ↔ Latest registrations text value := by
  constructor
  · rintro ⟨earlier, later, split, others⟩
    cases earlier with
    | nil =>
      cases split
      exact absurd again others
    | cons first earlier =>
      cases split
      exact ⟨earlier, later, rfl, others⟩
  · rintro ⟨earlier, later, rfl, others⟩
    exact ⟨(text', value') :: earlier, later, rfl, others⟩

theorem lookup_eq_some_iff (distinct : (entries.map Prod.fst).Nodup) :
    lookup entries name = some value ↔
      ∃ text, Utf8.ofString text = name ∧ (text, value) ∈ entries := by
  have reversed : (entries.reverse.map Prod.fst).Nodup := by
    rw [List.map_reverse]
    exact List.pairwise_reverse.2 (List.Pairwise.imp Ne.symm distinct)
  rw [← List.reverse_reverse entries, lookup_reverse_eq_some_iff, List.reverse_reverse]
  simp only [latest_iff_mem reversed, List.mem_reverse]

/-! ## Histories -/

/-- The rule is what is found, the latest registration first and the known names last. -/
theorem resolves_iff (distinct : (known.map Prod.fst).Nodup) :
    Resolves known fallback registrations name value ↔
      (lookup (registrations.reverse ++ known) name).getD fallback = value := by
  rw [lookup_append]
  constructor
  · intro resolves
    cases resolves with
    | registered spelled latest =>
      rw [lookup_reverse_eq_some_iff.2 ⟨_, spelled, latest⟩, Option.some_or, Option.getD_some]
    | known spelled absent listed =>
      rw [lookup_reverse_eq_none_iff.2 absent, Option.none_or,
        (lookup_eq_some_iff distinct).2 ⟨_, spelled, listed⟩, Option.getD_some]
    | unknown absent unlisted =>
      rw [lookup_reverse_eq_none_iff.2 absent, Option.none_or, lookup_eq_none_iff.2 unlisted,
        Option.getD_none]
  · rintro rfl
    cases made : lookup registrations.reverse name with
    | some value =>
      obtain ⟨text, spelled, latest⟩ := lookup_reverse_eq_some_iff.1 made
      rw [Option.some_or, Option.getD_some]
      exact .registered spelled latest
    | none =>
      have absent := lookup_reverse_eq_none_iff.1 made
      rw [Option.none_or]
      cases found : lookup known name with
      | some value =>
        obtain ⟨text, spelled, listed⟩ := (lookup_eq_some_iff distinct).1 found
        rw [Option.getD_some]
        exact .known spelled absent listed
      | none =>
        rw [Option.getD_none]
        exact .unknown absent (lookup_eq_none_iff.1 found)

/-- Histories that end in the same registration of every name come to the same. -/
theorem lookup_reverse_congr {registrations' : List (String × κ)}
    (same : ∀ text value, Latest registrations text value ↔ Latest registrations' text value)
    (name : Bytes) :
    lookup registrations.reverse name = lookup registrations'.reverse name := by
  apply Option.ext
  intro value
  rw [lookup_reverse_eq_some_iff, lookup_reverse_eq_some_iff]
  exact exists_congr fun text => and_congr_right fun _ => same text value

/-- Bytes that are no text are no registered name. -/
theorem absent_of_not_isValid (entries : List (String × κ)) (invalid : Utf8.isValid name = false) :
    Absent entries name := by
  rintro entry - rfl
  rw [Utf8.isValid_ofString] at invalid
  cases invalid

end SftpWire.Registry
