import SftpWire.Proofs.Packet.Response

/-!
Failures of the system on their way to the other side. A kind of failure becomes a code, and a code
may become a kind again, but neither table is the inverse of the other:
`StatusCode.ioKind?_eq_some_iff` says which kinds come back. Main statement:
`Response.decode_encode_ofIoFailure`, by which a failure arrives as a failure, and if it is still of
a kind, of the one that it was of.
-/

namespace SftpWire

/-- The kinds that codes stand for. Failures of other kinds are told apart only until they become
codes. -/
def IoKind.Kept (kind : IoKind) : Prop :=
  kind = .notFound ∨ kind = .permissionDenied ∨ kind = .unexpectedEof

instance (kind : IoKind) : Decidable kind.Kept :=
  inferInstanceAs (Decidable (_ ∨ _))

/-! ## Codes -/

namespace StatusCode

variable {code : StatusCode} {kind : IoKind}

/-- Every kind becomes a code that has a name. -/
@[simp] theorem normalize_ofIoKind (kind : IoKind) : (ofIoKind kind).normalize = ofIoKind kind := by
  apply ofValue_value_of_ne_other
  intro value same
  cases kind <;> cases same

theorem ofIoKind_ne_ok (kind : IoKind) : (ofIoKind kind == ok) = false := by
  cases kind <;> rfl

/-- A code stands for a kind exactly when the kind is one that is kept and becomes this code. -/
theorem ioKind?_eq_some_iff :
    code.ioKind? = some kind ↔ kind.Kept ∧ code.normalize = ofIoKind kind := by
  unfold ioKind?
  constructor
  · intro stands
    split at stands
    · next normal =>
      cases stands
      exact ⟨.inr (.inr rfl), normal⟩
    · next normal =>
      cases stands
      exact ⟨.inl rfl, normal⟩
    · next normal =>
      cases stands
      exact ⟨.inr (.inl rfl), normal⟩
    · cases stands
  · rintro ⟨rfl | rfl | rfl, normal⟩
    all_goals
      rw [normal]
      rfl

theorem ioKind?_ofIoKind (kept : kind.Kept) : (ofIoKind kind).ioKind? = some kind :=
  ioKind?_eq_some_iff.2 ⟨kept, normalize_ofIoKind kind⟩

theorem ioKind?_ofIoKind_eq_none (lost : ¬ kind.Kept) : (ofIoKind kind).ioKind? = none := by
  cases kind <;> first | rfl | exact absurd (by decide) lost

theorem ofIoKind_of_ioKind? (stands : code.ioKind? = some kind) :
    ofIoKind kind = code.normalize :=
  (ioKind?_eq_some_iff.1 stands).2.symm

end StatusCode

/-! ## Reports -/

namespace Status

/-- A report that stands for a kind of failure: it can be told from all others by its kind, it
becomes a failure of that kind, and that is reported by the same code. -/
structure StandsFor (report : Status) (kind : IoKind) : Prop where
  isKind_iff : ∀ kind', report.isKind kind' = true ↔ kind' = kind
  kind_eq : report.toIoFailure.kind = kind
  code_eq : (ofIoFailure report.toIoFailure).code = report.code

/-- A report that stands for no kind of failure: it is of no kind, it becomes a failure of which no
more is known, and that is reported as a failure and nothing else. -/
structure StandsForNone (report : Status) : Prop where
  isKind_eq : ∀ kind, report.isKind kind = false
  kind_eq : report.toIoFailure.kind = .other
  code_eq : (ofIoFailure report.toIoFailure).code = .failure

variable {report : Status} {kind : IoKind}

theorem isKind_iff : report.isKind kind = true ↔ report.code.ioKind? = some kind := by
  simp [isKind, StatusCode.isKind]

theorem standsFor_of_ioKind? (isNamed : report.code.normalize = report.code)
    (stands : report.code.ioKind? = some kind) : report.StandsFor kind := by
  have kind_eq : report.toIoFailure.kind = kind := by simp [toIoFailure, stands]
  refine ⟨fun kind' => ?_, kind_eq, ?_⟩
  · rw [isKind_iff, stands, Option.some.injEq, eq_comm]
  · rw [ofIoFailure, say, kind_eq, StatusCode.ofIoKind_of_ioKind? stands, isNamed]

theorem standsForNone_of_ioKind? (none : report.code.ioKind? = none) : report.StandsForNone := by
  have kind_eq : report.toIoFailure.kind = .other := by simp [toIoFailure, none]
  refine ⟨fun kind => ?_, kind_eq, ?_⟩
  · simp [isKind, StatusCode.isKind, none]
  · rw [ofIoFailure, say, kind_eq]
    rfl

theorem length_bytes (message : report.message.length < 4294967296)
    (language : report.language.length < 4294967296) : report.bytes.length = report.size := by
  simp only [bytes, size, List.length_append, Bytes.length_ofWord32, Bytes.length_ofString message,
    Bytes.length_ofString language]

theorem length_english : english.length = 2 := by
  decide

theorem size_ofIoFailure (failure : IoFailure) :
    (ofIoFailure failure).size = 14 + (Utf8.ofString failure.text).length := by
  simp only [ofIoFailure, say, size, length_english]
  omega

end Status

/-! ## Passage -/

theorem Response.length_bytes_encode_status {report : Status} (id : UInt32)
    (message : report.message.length < 4294967296)
    (language : report.language.length < 4294967296) :
    (Response.encode id (.status report)).bytes.length = 9 + report.size := by
  have body : (layout.write (.status report)).length = report.size :=
    (congrArg List.length (status_embeds.write_eq report)).trans
      (Status.length_bytes message language)
  rw [bytes_encode, List.length_append, Bytes.length_ofWord32, Message.length_content, body,
    ite_carriesId, if_neg nofun]
  omega

/-- A report arrives as it is, but for a code that is given by the value of a named one. -/
theorem Response.decode_encode_status {report : Status} {id : UInt32}
    (isNamed : report.code.normalize = report.code)
    (small : (Response.encode id (.status report)).bytes.length < 4 + 4294967296) :
    decode (Response.encode id (.status report)).bytes = .ok { id, packet := .status report } := by
  rw [decode_bytes_encode small, canonical, isNamed]
  rfl

theorem Message.check_status {report : Status} {id : UInt32} (notOk : report.isOk = false) :
    check { id, packet := .status report } = .error report := by
  simp [check, notOk]

/-- A failure of the system, whatever its kind and its text, arrives at the other side under its id
as a failure, and as the report that was made of it. If a code stands for its kind, the report does
so as well; otherwise the report stands for no kind. -/
theorem Response.decode_encode_ofIoFailure (failure : IoFailure) (id : UInt32)
    (small : 19 + (Utf8.ofString failure.text).length < 4294967296) :
    ∃ message, decode (Response.encode id (.status (.ofIoFailure failure))).bytes = .ok message ∧
      message.id = id ∧ message.check = .error (.ofIoFailure failure) ∧
      (failure.kind.Kept → (Status.ofIoFailure failure).StandsFor failure.kind) ∧
      (¬ failure.kind.Kept → (Status.ofIoFailure failure).StandsForNone) := by
  have isNamed : (Status.ofIoFailure failure).code.normalize = (Status.ofIoFailure failure).code :=
    StatusCode.normalize_ofIoKind failure.kind
  have language : (Status.ofIoFailure failure).language.length = 2 := Status.length_english
  have length : (Response.encode id (.status (.ofIoFailure failure))).bytes.length =
      9 + (Status.ofIoFailure failure).size :=
    length_bytes_encode_status id (Nat.lt_of_add_left_lt small) (by omega)
  rw [Status.size_ofIoFailure] at length
  refine ⟨{ id, packet := .status (.ofIoFailure failure) }, ?_, rfl, ?_, ?_, ?_⟩
  · apply decode_encode_status isNamed
    omega
  · exact Message.check_status (StatusCode.ofIoKind_ne_ok failure.kind)
  · intro kept
    exact Status.standsFor_of_ioKind? isNamed (StatusCode.ioKind?_ofIoKind kept)
  · intro lost
    exact Status.standsForNone_of_ioKind? (StatusCode.ioKind?_ofIoKind_eq_none lost)

/-- A kind that is kept, one that becomes a code of its own but is not, and one that is not even
listed. -/
theorem Response.decode_encode_ofIoFailure_sample :
    (∃ message, decode (Response.encode 7 (.status
          (.ofIoFailure { kind := .permissionDenied, text := "no" }))).bytes = .ok message ∧
        message.check = .error (.say .permissionDenied [0x6E, 0x6F])) ∧
      (Status.say .permissionDenied [0x6E, 0x6F]).StandsFor .permissionDenied ∧
    (∃ message, decode (Response.encode 8 (.status
          (.ofIoFailure { kind := .brokenPipe, text := "" }))).bytes = .ok message ∧
        message.check = .error (.say .connectionLost [])) ∧
      (Status.say .connectionLost []).StandsForNone ∧
    (Status.say .failure []).StandsForNone := by
  obtain ⟨denied, arrived, -, failed, kept, -⟩ :=
    decode_encode_ofIoFailure { kind := .permissionDenied, text := "no" } 7 (by decide)
  obtain ⟨broken, arrived', -, failed', -, lost⟩ :=
    decode_encode_ofIoFailure { kind := .brokenPipe, text := "" } 8 (by decide)
  obtain ⟨_, -, -, -, -, unlisted⟩ :=
    decode_encode_ofIoFailure { kind := .unlisted "StorageFull", text := "" } 9 (by decide)
  exact ⟨⟨denied, arrived, failed⟩, kept (by decide), ⟨broken, arrived', failed'⟩,
    lost (by decide), unlisted (by decide)⟩

end SftpWire
