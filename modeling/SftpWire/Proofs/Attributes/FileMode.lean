import SftpWire.Attributes.FileMode
import SftpWire.Proofs.Wire.Word

/-!
What a listing shows of a mode, and what making a mode keeps. Each special bit shares its character
with a bit for executing, and the four characters that the two can come to are all different, so a
listing tells every permission from every other; of the types it takes two for one. The mode that is
made of a type and a word has that type whatever the word is. Main statement: `FileMode.bits_kept`.
-/

namespace SftpWire

namespace FileType

/-- The type with an unknown one counted as regular. -/
def orRegular : FileType → FileType
  | .unknown => .regular
  | type => type

theorem letter_eq_iff {type type' : FileType} :
    type.letter = type'.letter ↔ type.orRegular = type'.orRegular := by
  cases type <;> cases type' <;> decide

theorem bits_and_typeMask (type : FileType) : type.bits &&& FileMode.typeMask = type.bits := by
  cases type <;> rfl

/-- Type bits are those of their type, unless they have no meaning and some are set. -/
theorem bits_ofBits_eq_iff {word : UInt32} :
    (ofBits word).bits = word ↔ ofBits word ≠ .unknown ∨ word = 0 := by
  constructor
  · intro same
    by_cases unknown : ofBits word = .unknown
    · rw [unknown] at same
      exact .inr same.symm
    · exact .inl unknown
  · intro known
    rcases known with known | rfl
    · revert known
      fun_cases ofBits word <;> simp_all [bits]
    · rfl

end FileType

namespace FileMode

variable {mode mode' : FileMode}

/-! ## The bits of the permissions -/

/-- The bits of the permissions, one by one. -/
def permissionBits : List UInt32 :=
  [0o400, 0o200, 0o100, 0o4000, 0o040, 0o020, 0o010, 0o2000, 0o004, 0o002, 0o001, 0o1000]

/-- Each of the bits is one bit. -/
theorem single_of_mem_permissionBits :
    ∀ bit ∈ permissionBits, bit ≠ 0 ∧ ∃ n < 32, bit.toBitVec = BitVec.twoPow 32 n := by
  -- Bit by bit first: to decide this as it stands goes through all words.
  simp only [permissionBits, List.forall_mem_cons, List.not_mem_nil, false_implies, implies_true,
    and_true]
  decide

theorem permissionMask_and_of_mem :
    ∀ bit ∈ permissionBits, permissionMask &&& bit = bit := by
  simp only [permissionBits, List.forall_mem_cons, List.not_mem_nil, false_implies, implies_true,
    and_true]
  decide

theorem foldr_permissionBits : permissionBits.foldr (· ||| ·) 0 = permissionMask := by
  decide

theorem has_eq_iff {bit : UInt32} {n : Nat} (nonzero : bit ≠ 0)
    (single : bit.toBitVec = BitVec.twoPow 32 n) :
    mode.has bit = mode'.has bit ↔ mode.word &&& bit = mode'.word &&& bit := by
  unfold has
  rcases Word.and_eq_zero_or_eq mode.word single with down | up <;>
    rcases Word.and_eq_zero_or_eq mode'.word single with down' | up' <;>
    simp_all [nonzero.symm]

theorem permissions_eq_iff :
    mode.permissions = mode'.permissions ↔
      ∀ bit ∈ permissionBits, mode.has bit = mode'.has bit := by
  constructor
  · intro same bit member
    have part (mode : FileMode) : mode.word &&& bit = mode.permissions &&& bit := by
      rw [permissions, UInt32.and_assoc, permissionMask_and_of_mem bit member]
    rw [has, has, part mode, part mode', same]
  · intro same
    rw [permissions, permissions, ← foldr_permissionBits]
    refine Word.and_foldr_eq fun bit member => ?_
    obtain ⟨nonzero, n, -, single⟩ := single_of_mem_permissionBits bit member
    exact (has_eq_iff nonzero single).1 (same bit member)

/-! ## Listings -/

theorem plain_eq_iff {bit : UInt32} {letter : Char} (shown : letter ≠ '-') :
    mode.plain bit letter = mode'.plain bit letter ↔ mode.has bit = mode'.has bit := by
  unfold plain
  cases mode.has bit <;> cases mode'.has bit <;> simp [shown, shown.symm]

/-- The character for executing tells both bits where its four forms are different. -/
theorem special_eq_iff {execute bit : UInt32} {allowed refused : Char}
    (apart : [allowed, refused, 'x', '-'].Nodup) :
    mode.special execute bit allowed refused = mode'.special execute bit allowed refused ↔
      mode.has execute = mode'.has execute ∧ mode.has bit = mode'.has bit := by
  unfold special
  cases mode.has execute <;> cases mode.has bit <;> cases mode'.has execute <;>
    cases mode'.has bit <;> simp_all [eq_comm]

/-- A listing shows all the permissions, and the type but for whether it is known. -/
theorem display_eq_iff :
    mode.display = mode'.display ↔
      mode.permissions = mode'.permissions ∧ mode.type.orRegular = mode'.type.orRegular := by
  rw [display, display, String.ofList_inj, permissions_eq_iff, ← FileType.letter_eq_iff, and_comm]
  simp only [letters, permissionBits, List.cons.injEq, List.forall_mem_cons, List.not_mem_nil,
    false_implies, implies_true, and_true, and_assoc,
    plain_eq_iff (show 'r' ≠ '-' by decide), plain_eq_iff (show 'w' ≠ '-' by decide),
    special_eq_iff (show ['s', 'S', 'x', '-'].Nodup by decide),
    special_eq_iff (show ['t', 'T', 'x', '-'].Nodup by decide)]

example : (mk 0o104755).display = "-rwsr-xr-x" ∧ (mk 0o002644).display = "-rw-r-Sr--" := by
  decide

/-! ## Making modes -/

/-- The bits of the type and of the permissions. -/
def usedMask : UInt32 := 0o177777

/-- A mode without the bits that mean nothing. -/
def used (mode : FileMode) : FileMode :=
  ⟨mode.word &&& usedMask⟩

theorem used_and {mask : UInt32} (within : usedMask &&& mask = mask) :
    mode.used.word &&& mask = mode.word &&& mask := by
  rw [used, UInt32.and_assoc, within]

theorem used_type : mode.used.type = mode.type := by
  rw [type, type, used_and (by decide)]

theorem used_permissions : mode.used.permissions = mode.permissions := by
  rw [permissions, permissions, used_and (by decide)]

/-- What is used of a mode is its type bits and its permissions. -/
theorem used_eq : mode.used = ⟨(mode.word &&& typeMask) ||| mode.permissions⟩ := by
  rw [permissions, ← Word.and_or]
  rfl

theorem make_and_typeMask (type : FileType) (word : UInt32) :
    (make type word).word &&& typeMask = type.bits := by
  have apart : permissionMask &&& typeMask = 0 := by decide
  rw [make, Word.or_and, UInt32.and_assoc, apart, type.bits_and_typeMask, UInt32.and_zero,
    UInt32.or_zero]

/-- No word changes the type. -/
theorem make_type (type : FileType) (word : UInt32) : (make type word).type = type := by
  rw [FileMode.type, make_and_typeMask, FileType.ofBits_bits]

theorem make_and {mask : UInt32} (within : permissionMask &&& mask = mask) (type : FileType)
    (word : UInt32) : (make type word).word &&& mask = word &&& mask := by
  have apart : typeMask &&& mask = 0 := by
    rw [← within, ← UInt32.and_assoc, show typeMask &&& permissionMask = 0 by decide,
      UInt32.zero_and]
  rw [make, Word.or_and, ← type.bits_and_typeMask, UInt32.and_assoc, UInt32.and_assoc,
    apart, within, UInt32.and_zero, UInt32.zero_or]

/-- A mode is made again from its own type and word, unless its type bits have no meaning. -/
theorem make_type_word_iff :
    make mode.type mode.word = mode.used ↔ mode.type ≠ .unknown ∨ mode.word &&& typeMask = 0 := by
  rw [FileMode.type, ← FileType.bits_ofBits_eq_iff]
  constructor
  · intro same
    rw [← make_and_typeMask _ mode.word, same, used_and (by decide)]
  · intro same
    rw [make, same, used_eq]
    rfl

/-- Two modes are listed alike exactly when they have the same permissions and the same type, an
unknown type counted as regular. Bits beyond the type are never looked at. The mode made of a type
and a word has that type and the permissions in the word; a mode whose type is known is made again
from its type and its own word, and so is one without type bits, and no other is. -/
theorem bits_kept :
    (∀ mode mode' : FileMode,
      mode.display = mode'.display ↔
        mode.word &&& 0o7777 = mode'.word &&& 0o7777 ∧
          mode.type.orRegular = mode'.type.orRegular) ∧
    (∀ mode : FileMode,
      (⟨mode.word &&& 0o177777⟩ : FileMode).display = mode.display ∧
        (⟨mode.word &&& 0o177777⟩ : FileMode).type = mode.type ∧
        (⟨mode.word &&& 0o177777⟩ : FileMode).access = mode.access) ∧
    (∀ (type : FileType) (word : UInt32),
      (make type word).type = type ∧ (make type word).word &&& 0o7777 = word &&& 0o7777 ∧
        (make type word).access = word &&& 0o777) ∧
    ∀ mode : FileMode,
      make mode.type mode.word = ⟨mode.word &&& 0o177777⟩ ↔
        mode.type ≠ .unknown ∨ mode.word &&& 0o170000 = 0 := by
  refine ⟨fun mode mode' => display_eq_iff, fun mode => ⟨?_, used_type, ?_⟩,
    fun type word => ⟨make_type type word, ?_, ?_⟩, fun mode => make_type_word_iff⟩
  · exact display_eq_iff.2 ⟨used_permissions, congrArg FileType.orRegular used_type⟩
  · exact used_and (by decide)
  · exact make_and (by decide) type word
  · exact make_and (by decide) type word

end FileMode

end SftpWire
