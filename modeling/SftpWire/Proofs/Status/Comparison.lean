import SftpWire.Proofs.Equality

/-!
Comparison of codes and of reports. A code can be given by its name or by its value, and nothing a
program asks of it may depend on which. Every question goes by the code that the value is turned
into, so it is enough to know those codes: `StatusCode.Normal` says which they are, and
`StatusCode.spelling_injective` that no two of them are spelled alike. Main statement:
`compared_by_value`.
-/

namespace SftpWire

/-- Numbers are written apart: the digits can be read back. -/
theorem toString_nat_inj {m n : Nat} (same : toString m = toString n) : m = n := by
  have digits : Nat.toDigits 10 m = Nat.toDigits 10 n := by
    simpa only [Nat.toString_eq_repr, Nat.toList_repr] using congrArg String.toList same
  simpa using congrArg (Nat.ofDigitChars 10 · 0) digits

/-! ## Codes -/

namespace StatusCode

/-- The codes that values are turned into: those with a name, and the rest by their value. -/
inductive Normal : StatusCode → Prop where
  | named {code : StatusCode} (mem : code ∈ named) : Normal code
  | unnamed {v : UInt32} (above : 31 < v) : Normal (.other v)

/-- What a code says of itself after what all codes begin with. -/
def spelling : StatusCode → String
  | .other v => "UNKNOWN(" ++ (toString v.toNat ++ ")")
  | known => known.word

/-- Codes that answer every question alike, and can differ only in how they are given. -/
structure Alike (a b : StatusCode) : Prop where
  label_eq : a.label = b.label
  ioKind?_eq : a.ioKind? = b.ioKind?
  isKind_eq : ∀ kind, a.isKind kind = b.isKind kind

variable {a b code : StatusCode} {v : UInt32}

theorem exists_named_of_le (small : v ≤ 31) : ∃ code ∈ named, code.value = v := by
  have all : ∀ n : Fin 32, ∃ code ∈ named, code.value.toNat = n := by decide
  obtain ⟨code, mem, value⟩ := all ⟨v.toNat, Nat.lt_succ_of_le (UInt32.le_iff_toNat_le.1 small)⟩
  exact ⟨code, mem, UInt32.toNat_inj.1 value⟩

theorem other_notMem_named : .other v ∉ named := by
  simp [named]

theorem ofValue_value_of_mem (mem : code ∈ named) : ofValue code.value = code := by
  apply ofValue_value_of_ne_other
  rintro v rfl
  exact other_notMem_named mem

theorem normal_ofValue (v : UInt32) : (ofValue v).Normal := by
  unfold ofValue
  cases found : named.find? fun code => code.value == v with
  | some code => exact .named (List.mem_of_find?_eq_some found)
  | none =>
    refine .unnamed (UInt32.not_le.1 fun small => ?_)
    obtain ⟨code, mem, value⟩ := exists_named_of_le small
    exact List.find?_eq_none.1 found code mem (by simpa using value)

theorem Normal.lt_of_other (normal : (other v).Normal) : 31 < v := by
  cases normal with
  | named mem => exact absurd mem other_notMem_named
  | unnamed above => exact above

theorem spelling_of_mem (mem : code ∈ named) : code.spelling = code.word := by
  cases code with
  | other v => exact absurd mem other_notMem_named
  | _ => rfl

theorem display_eq (code : StatusCode) : code.display = "SSH_FX_" ++ code.normalize.spelling := by
  unfold display
  split
  · next v normal =>
    rw [normal, spelling, ← String.append_assoc, ← String.append_assoc]
    rfl
  · next unlike =>
    generalize code.normalize = normal at unlike ⊢
    cases normal with
    | other v => exact absurd rfl (unlike v)
    | _ => rfl

/-- A name is given to one code. -/
theorem word_inj (memA : a ∈ named) (memB : b ∈ named) (same : a.word = b.word) : a = b := by
  have found : ∀ code ∈ named,
      (named.find? fun known => known.word == code.word).map value = some code.value := by decide
  have values := found a memA
  rw [same, found b memB, Option.some.injEq] at values
  rw [← ofValue_value_of_mem memA, ← values, ofValue_value_of_mem memB]

/-- No name begins as the codes without one are spelled. -/
theorem word_ne_spelling_other (mem : code ∈ named) : code.word ≠ spelling (.other v) := by
  have apart : ∀ code ∈ named, ¬ "UNKNOWN(".toList <+: code.word.toList := by decide
  intro same
  apply apart code mem
  rw [same, spelling, String.toList_append]
  exact List.prefix_append _ _

theorem spelling_other_inj {w : UInt32} (same : spelling (.other v) = spelling (.other w)) :
    v = w := by
  rw [spelling, spelling, String.append_right_inj, String.append_left_inj] at same
  exact UInt32.toNat_inj.1 (toString_nat_inj same)

/-- Two codes that values are turned into are spelled alike only if they are one. -/
theorem spelling_injective (normalA : a.Normal) (normalB : b.Normal)
    (same : a.spelling = b.spelling) : a = b := by
  cases normalA with
  | named memA =>
    rw [spelling_of_mem memA] at same
    cases normalB with
    | named memB => exact word_inj memA memB (same.trans (spelling_of_mem memB))
    | unnamed _ => exact absurd same (word_ne_spelling_other memA)
  | unnamed _ =>
    cases normalB with
    | named memB =>
      rw [spelling_of_mem memB] at same
      exact absurd same.symm (word_ne_spelling_other memB)
    | unnamed _ => exact congrArg other (spelling_other_inj same)

theorem beq_iff_normalize_eq : (a == b) = true ↔ a.normalize = b.normalize :=
  beq_iff.trans normalize_eq_iff.symm

theorem beq_iff_display_eq : (a == b) = true ↔ a.display = b.display := by
  rw [beq_iff_normalize_eq]
  constructor
  · intro same
    rw [display_eq, display_eq, same]
  · intro same
    rw [display_eq, display_eq, String.append_right_inj] at same
    exact spelling_injective (normal_ofValue _) (normal_ofValue _) same

theorem alike_of_beq (same : (a == b) = true) : a.Alike b := by
  have normal := beq_iff_normalize_eq.1 same
  have kinds : a.ioKind? = b.ioKind? := by rw [ioKind?, normal, ioKind?]
  refine ⟨?_, kinds, fun kind => ?_⟩
  · rw [label, normal, label]
  · rw [isKind, kinds, isKind]

theorem value_normalize (code : StatusCode) : code.normalize.value = code.value :=
  value_ofValue code.value

theorem normalize_normalize (code : StatusCode) : code.normalize.normalize = code.normalize :=
  normalize_eq_iff.2 code.value_normalize

/-- Codes take part in a comparison by their value, whichever side they are on. -/
theorem beq_congr {c : StatusCode} (same : (a == b) = true) : (a == c) = (b == c) := by
  show (a.value == c.value) = (b.value == c.value)
  rw [beq_iff.1 same]

end StatusCode

/-! ## Reports -/

namespace Status

/-- Reports that answer every question alike. -/
structure Alike (a b : Status) : Prop where
  isOk_eq : a.isOk = b.isOk
  hasCode_eq : ∀ code, a.hasCode code = b.hasCode code
  isCodeOf_eq : ∀ code, isCodeOf code a = isCodeOf code b
  isKind_eq : ∀ kind, a.isKind kind = b.isKind kind
  display_eq : a.display = b.display

variable {a b report : Status} {code : StatusCode}

theorem beq_iff_fields : (a == b) = true ↔
    a.code.value = b.code.value ∧ a.message = b.message ∧ a.language = b.language := by
  have byParts : (a == b) =
      (a.code == b.code && a.message == b.message && a.language == b.language) := rfl
  rw [byParts, Bool.and_eq_true, Bool.and_eq_true, StatusCode.beq_iff, beq_iff_eq, beq_iff_eq,
    and_assoc]

theorem hasCode_iff : report.hasCode code = true ↔ report.code.value = code.value :=
  StatusCode.beq_iff

/-- It is the same to ask a code for its report as to ask the report for its code. -/
theorem isCodeOf_eq_hasCode (code : StatusCode) (report : Status) :
    isCodeOf code report = report.hasCode code :=
  Bool.eq_iff_iff.2 (StatusCode.beq_iff.trans (eq_comm.trans hasCode_iff.symm))

theorem alike_of_beq (same : (a == b) = true) : a.Alike b := by
  obtain ⟨values, messages, -⟩ := beq_iff_fields.1 same
  have codes : (a.code == b.code) = true := StatusCode.beq_iff.2 values
  have hasCode_eq (code : StatusCode) : a.hasCode code = b.hasCode code :=
    StatusCode.beq_congr codes
  refine ⟨hasCode_eq .ok, hasCode_eq, fun code => ?_, fun kind => ?_, ?_⟩
  · rw [isCodeOf_eq_hasCode, hasCode_eq, isCodeOf_eq_hasCode]
  · exact (StatusCode.alike_of_beq codes).isKind_eq kind
  · rw [display, StatusCode.beq_iff_display_eq.1 codes, messages, display]

end Status

/-- Codes are compared by their value everywhere: they are equal exactly when their values are, when
they are turned into the same code, and when they are spelled alike, and equal codes answer every
question alike. Turning a code into the one of its value changes nothing after the first time, and
leaves without a name only what has none. Reports are equal when their codes, messages and languages
are, and then answer every question alike; between a report and a code only the code of the report
counts, from either side. -/
theorem compared_by_value :
    (∀ a b : StatusCode,
      ((a == b) = true ↔ a.value = b.value) ∧
      ((a == b) = true ↔ a.normalize = b.normalize) ∧
      ((a == b) = true ↔ a.display = b.display) ∧
      ((a == b) = true → a.Alike b)) ∧
    (∀ code : StatusCode,
      code.normalize.normalize = code.normalize ∧ (code.normalize == code) = true ∧
        ∀ v, code.normalize = .other v → 31 < v) ∧
    (∀ v, (StatusCode.ofValue v).value = v) ∧
    (∀ a b : Status,
      ((a == b) = true ↔
        a.code.value = b.code.value ∧ a.message = b.message ∧ a.language = b.language) ∧
      ((a == b) = true → a.Alike b)) ∧
    ∀ (report : Status) (code : StatusCode),
      (report.hasCode code = true ↔ report.code.value = code.value) ∧
        Status.isCodeOf code report = report.hasCode code := by
  refine ⟨fun a b => ⟨StatusCode.beq_iff, StatusCode.beq_iff_normalize_eq,
      StatusCode.beq_iff_display_eq, StatusCode.alike_of_beq⟩, fun code => ?_,
    StatusCode.value_ofValue, fun a b => ⟨Status.beq_iff_fields, Status.alike_of_beq⟩,
    fun report code => ⟨Status.hasCode_iff, Status.isCodeOf_eq_hasCode code report⟩⟩
  refine ⟨code.normalize_normalize, StatusCode.beq_iff.2 code.value_normalize, ?_⟩
  intro v normal
  have unnamed := StatusCode.normal_ofValue code.value
  exact (normal ▸ unnamed : (StatusCode.other v).Normal).lt_of_other

/-- The value of a named code and one that no code has, and reports that give one code in the two
ways there are. -/
theorem compared_by_value_sample :
    (StatusCode.other 2).display = StatusCode.noSuchFile.display ∧
      (StatusCode.other 2).Alike .noSuchFile ∧
      (StatusCode.other 2).display ≠ (StatusCode.other 77).display ∧
      (31 : UInt32) < 77 ∧
      (Status.say (.other 1) [0x78]).Alike (.say .eof [0x78]) ∧
      (Status.say (.other 1) [0x78] == .say .eof [0x79]) = false := by
  obtain ⟨codes, normals, -, reports, -⟩ := compared_by_value
  obtain ⟨-, -, spelled, alike⟩ := codes (.other 2) .noSuchFile
  have apart := mt (codes (.other 2) (.other 77)).2.2.1.2 (by decide)
  have unnamed := (normals (.other 77)).2.2 77 rfl
  have alike' := (reports (.say (.other 1) [0x78]) (.say .eof [0x78])).2 (by decide)
  have apart' := mt (reports (.say (.other 1) [0x78]) (.say .eof [0x79])).1.1 (by decide)
  exact ⟨spelled.1 (by decide), alike (by decide), apart, unnamed, alike',
    Bool.eq_false_iff.2 apart'⟩

end SftpWire
