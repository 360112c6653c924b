import SftpWire.Proofs.Packet.Request
import SftpWire.Proofs.Packet.Response

/-!
All that can come of bytes that are to be a packet. Three things are looked at in turn: the length,
then the code and the id, then the body. Each failure but running short is told by what stands in
the first bytes alone (`Message.decode_eq_error_iff`), so it does not depend on the body, and since
no code belongs to both sides no bytes are a packet of both. Main statement: `decode_classified`.
-/

namespace SftpWire

/-! ## Codes -/

namespace TypeCode

/-- The codes of the requests that can be read. -/
def OfRequest (code : TypeCode) : Prop :=
  code = 1 ∨ (3 ≤ code ∧ code ≤ 20) ∨ code = 200

/-- The codes of responses. -/
def OfResponse (code : TypeCode) : Prop :=
  code = 2 ∨ (101 ≤ code ∧ code ≤ 105) ∨ code = 201

/-- The codes that have a meaning. -/
def Known (code : TypeCode) : Prop :=
  (1 ≤ code ∧ code ≤ 23) ∨ (101 ≤ code ∧ code ≤ 105) ∨ code = 200 ∨ code = 201

instance (code : TypeCode) : Decidable code.OfRequest :=
  inferInstanceAs (Decidable (_ ∨ _))

instance (code : TypeCode) : Decidable code.OfResponse :=
  inferInstanceAs (Decidable (_ ∨ _))

instance (code : TypeCode) : Decidable code.Known :=
  inferInstanceAs (Decidable (_ ∨ _))

variable {code : TypeCode}

theorem OfRequest.known (isRequest : code.OfRequest) : code.Known := by
  simp only [OfRequest, Known, UInt8.le_iff_toNat_le, ← UInt8.toNat_inj, UInt8.reduceToNat] at *
  omega

theorem OfResponse.known (isResponse : code.OfResponse) : code.Known := by
  simp only [OfResponse, Known, UInt8.le_iff_toNat_le, ← UInt8.toNat_inj,
    UInt8.reduceToNat] at *
  omega

/-- No code belongs to both sides. -/
theorem OfRequest.not_ofResponse (isRequest : code.OfRequest) : ¬ code.OfResponse := by
  simp only [OfRequest, OfResponse, UInt8.le_iff_toNat_le, ← UInt8.toNat_inj,
    UInt8.reduceToNat] at *
  omega

theorem known_iff (code : TypeCode) : code.Known ↔ (Kind.ofCode? code).isSome := by
  have listed : (Kind.ofCode? code).isSome ↔ code ∈ Kind.all.map Kind.code := by
    rw [Kind.ofCode?, List.find?_isSome, List.mem_map]
    simp only [beq_iff_eq]
  rw [listed]
  simp only [Known, Kind.all, List.map_cons, List.map_nil, Kind.code, List.mem_cons,
    List.not_mem_nil, or_false, UInt8.le_iff_toNat_le, ← UInt8.toNat_inj, UInt8.reduceToNat]
  omega

/-- Only packets that open a session carry no id. -/
theorem carriesId_iff (code : TypeCode) : code.carriesId = true ↔ ¬ (code = 1 ∨ code = 2) := by
  simp [carriesId, Kind.code]

/-- Where there are readers for the kinds of some codes, there is none for every other code. -/
theorem bind_eq_none_iff {α : Type} {reader? : Kind → Option (Reader α)}
    {Belongs : TypeCode → Prop} (known : ∀ code, Belongs code → code.Known)
    (belongs_iff : ∀ kind : Kind, Belongs kind.code ↔ (reader? kind).isSome) (code : TypeCode) :
    (Kind.ofCode? code).bind reader? = none ↔ ¬ Belongs code := by
  cases found : Kind.ofCode? code with
  | none =>
    have unknown : ¬ code.Known := by
      rw [known_iff, found]
      exact Bool.false_ne_true
    exact iff_of_true rfl (mt (known code) unknown)
  | some kind =>
    obtain rfl := Kind.code_of_ofCode? found
    rw [belongs_iff, Option.bind_some]
    simp

end TypeCode

/-- Requests that can be made of a kind are those that can be read. -/
theorem Request.isSome_reader? (registry : Registry) (kind : Kind) :
    (reader? registry kind).isSome = (blank? kind).isSome := by
  cases kind <;> rfl

theorem Response.isSome_reader? (kind : Kind) :
    (reader? kind).isSome = (blank? kind).isSome := by
  cases kind <;> rfl

theorem Request.ofRequest_code_iff (registry : Registry) (kind : Kind) :
    TypeCode.OfRequest kind.code ↔ (reader? registry kind).isSome := by
  rw [isSome_reader?]
  cases kind <;> decide

theorem Response.ofResponse_code_iff (kind : Kind) :
    TypeCode.OfResponse kind.code ↔ (reader? kind).isSome := by
  rw [isSome_reader?]
  cases kind <;> decide

/-! ## Faults -/

namespace Fault

variable {code : TypeCode}

theorem unexpectedResponse_eq (code : TypeCode) :
    unexpectedResponse code = if code.Known then .unexpectedType code else .unknownType code := by
  simp only [unexpectedResponse, TypeCode.known_iff]
  cases Kind.ofCode? code <;> rfl

theorem unexpectedResponse_eq_unknownType_iff {actual : TypeCode} :
    unexpectedResponse actual = .unknownType code ↔ actual = code ∧ ¬ code.Known := by
  rw [unexpectedResponse_eq]
  split
  · next known => exact iff_of_false nofun fun ⟨same, unknown⟩ => unknown (same ▸ known)
  · next unknown =>
    rw [unknownType.injEq]
    exact ⟨fun same => ⟨same, same ▸ unknown⟩, And.left⟩

theorem unexpectedResponse_eq_unexpectedType_iff {actual : TypeCode} :
    unexpectedResponse actual = .unexpectedType code ↔ actual = code ∧ code.Known := by
  rw [unexpectedResponse_eq]
  split
  · next known =>
    rw [unexpectedType.injEq]
    exact ⟨fun same => ⟨same, same ▸ known⟩, And.left⟩
  · next unknown => exact iff_of_false nofun fun ⟨same, known⟩ => unknown (same ▸ known)

theorem unexpectedResponse_ne_lengthMismatch {declared actual : Nat} :
    unexpectedResponse code ≠ .lengthMismatch declared actual := by
  rw [unexpectedResponse_eq]
  split <;> nofun

theorem isMalformed_unexpectedResponse (code : TypeCode) :
    (unexpectedResponse code).isMalformed = true := by
  rw [unexpectedResponse_eq]
  split <;> rfl

end Fault

/-! ## Frames -/

namespace Frame

/-- The length in front is there and declares fewer bytes than follow it. -/
def Mismatch (bytes : Bytes) (declared actual : Nat) : Prop :=
  bytes.length = 4 + actual ∧ Bytes.value (bytes.take 4) = declared ∧ declared < actual

/-- The length in front declares just as many bytes as follow it, and of these the code is there and
the id, unless the code is one of those without. -/
def Headed (bytes : Bytes) (code : TypeCode) : Prop :=
  bytes.length = 4 + Bytes.value (bytes.take 4) ∧ bytes[4]? = some code ∧
    (code = 1 ∨ code = 2 ∨ 9 ≤ bytes.length)

variable {bytes content : Bytes} {code : TypeCode}

theorem decode_eq_lengthMismatch_iff {declared actual : Nat} :
    decode bytes = .error (.lengthMismatch declared actual) ↔ Mismatch bytes declared actual := by
  by_cases few : bytes.length < 4
  · rw [decode_of_length_lt few]
    refine iff_of_false nofun ?_
    rintro ⟨length, -⟩
    omega
  · obtain ⟨word, content, rfl⟩ := Reader.exists_word32_append (Nat.le_of_not_lt few)
    rw [decode_ofWord32_append, Mismatch, Bytes.value_take_ofWord32_append, List.length_append,
      Bytes.length_ofWord32]
    split
    · next more =>
      refine iff_of_false nofun ?_
      omega
    · next enough =>
      split
      · next less =>
        simp only [Except.error.injEq, Fault.lengthMismatch.injEq]
        omega
      · next same =>
        refine iff_of_false ?_ (by omega)
        rcases ofContent_eq_short_or_ok content with short | ⟨frame, isFrame⟩
        · rw [short]
          nofun
        · rw [isFrame]
          nofun

/-- Content is a frame with the code that stands first, if the id is there where one belongs. -/
theorem exists_ofContent_iff :
    (∃ frame, ofContent content = .ok frame ∧ frame.code = code) ↔
      content[0]? = some code ∧ (code = 1 ∨ code = 2 ∨ 5 ≤ content.length) := by
  constructor
  · rintro ⟨frame, isFrame, rfl⟩
    obtain ⟨rfl, -⟩ := ofContent_eq_ok_iff.1 isFrame
    refine ⟨rfl, ?_⟩
    rw [List.length_append, length_head]
    cases carries : TypeCode.carriesId frame.code with
    | true =>
      simp only [if_true]
      exact .inr (.inr (by omega))
    | false =>
      have opens := mt (TypeCode.carriesId_iff frame.code).2 (by simp [carries])
      exact or_assoc.1 (.inl (Classical.not_not.1 opens))
  · rintro ⟨first, room⟩
    cases content with
    | nil => cases first
    | cons front tail =>
      obtain rfl : front = code := by simpa using first
      by_cases opens : front = 1 ∨ front = 2
      · have none : TypeCode.carriesId front = false := by
          simpa [opens] using mt (TypeCode.carriesId_iff front).1
        exact ⟨{ code := front, id := 0, body := tail },
          ofContent_eq_ok_iff.2 ⟨by simp [head, none], fun _ => rfl⟩, rfl⟩
      · have carries : TypeCode.carriesId front = true := (TypeCode.carriesId_iff front).2 opens
        have enough : 4 ≤ tail.length :=
          Nat.le_of_succ_le_succ ((or_assoc.2 room).resolve_left opens)
        obtain ⟨id, body, rfl⟩ := Reader.exists_word32_append enough
        exact ⟨{ code := front, id, body },
          ofContent_eq_ok_iff.2 ⟨by simp [head, carries], by simp [carries]⟩, rfl⟩

/-- A code is at the head of a frame exactly when the frame can be read and has that code. -/
theorem headed_iff : Headed bytes code ↔ ∃ frame, decode bytes = .ok frame ∧ frame.code = code := by
  by_cases few : bytes.length < 4
  · rw [decode_of_length_lt few]
    refine iff_of_false ?_ nofun
    rintro ⟨length, -⟩
    omega
  · obtain ⟨word, content, rfl⟩ := Reader.exists_word32_append (Nat.le_of_not_lt few)
    rw [decode_ofWord32_append, Headed, Bytes.value_take_ofWord32_append, List.length_append,
      Bytes.length_ofWord32]
    by_cases exactly : content.length = word.toNat
    · have first : (Bytes.ofWord32 word ++ content)[4]? = content[0]? := by
        rw [List.getElem?_append_right (by simp), Bytes.length_ofWord32]
      have room : 9 ≤ 4 + content.length ↔ 5 ≤ content.length := by omega
      rw [if_neg (by omega), if_neg (by omega), exists_ofContent_iff, first, room, exactly]
      exact and_iff_right rfl
    · refine iff_of_false ?_ ?_
      · rintro ⟨length, -⟩
        omega
      · split
        · nofun
        · rw [if_pos (by omega)]
          nofun

theorem decode_outcomes (bytes : Bytes) :
    decode bytes = .error .short ∨
      (∃ declared actual, decode bytes = .error (.lengthMismatch declared actual)) ∨
      ∃ frame, decode bytes = .ok frame := by
  by_cases few : bytes.length < 4
  · exact .inl (decode_of_length_lt few)
  · obtain ⟨word, content, rfl⟩ := Reader.exists_word32_append (Nat.le_of_not_lt few)
    rw [decode_ofWord32_append]
    split
    · exact .inl rfl
    · split
      · exact .inr (.inl ⟨_, _, rfl⟩)
      · rcases ofContent_eq_short_or_ok content with short | isFrame
        · exact .inl short
        · exact .inr (.inr isFrame)

end Frame

/-! ## Packets -/

namespace Message

variable {α : Type} {reader? : Kind → Option (Reader α)} {unexpected : TypeCode → Fault}
  {bytes : Bytes}

/-- A frame whose code nobody can read is refused for its code; any other can only run short. -/
theorem ofFrame_outcomes (reader? : Kind → Option (Reader α)) (unexpected : TypeCode → Fault)
    (frame : Frame) :
    ((Kind.ofCode? frame.code).bind reader? = none ∧
        ofFrame reader? unexpected frame = .error (unexpected frame.code)) ∨
      ((Kind.ofCode? frame.code).bind reader? ≠ none ∧
        (ofFrame reader? unexpected frame = .error .short ∨
          ∃ message, ofFrame reader? unexpected frame = .ok message)) := by
  cases found : (Kind.ofCode? frame.code).bind reader? with
  | none => exact .inl ⟨rfl, by simp only [ofFrame, found]⟩
  | some reader =>
    refine .inr ⟨Option.some_ne_none reader, ?_⟩
    cases run : reader.run frame.body with
    | short rest => exact .inl (by simp only [ofFrame, found, run])
    | done packet rest =>
      exact .inr ⟨{ id := frame.id, packet }, by simp only [ofFrame, found, run]⟩

/-- Failures other than running short: the length in front is too small, or nobody can read packets
of the code at the head. -/
theorem decode_eq_error_iff {fault : Fault} (other : fault ≠ .short) :
    (Frame.decode bytes).bind (ofFrame reader? unexpected) = .error fault ↔
      (∃ declared actual, Frame.Mismatch bytes declared actual ∧
          fault = .lengthMismatch declared actual) ∨
        ∃ code, Frame.Headed bytes code ∧ (Kind.ofCode? code).bind reader? = none ∧
          fault = unexpected code := by
  constructor
  · intro failed
    rcases Frame.decode_outcomes bytes with
      short | ⟨declared, actual, mismatch⟩ | ⟨frame, isFrame⟩
    · rw [short] at failed
      exact absurd (Except.error.inj failed).symm other
    · rw [mismatch] at failed
      have isMismatch := Frame.decode_eq_lengthMismatch_iff.1 mismatch
      exact .inl ⟨declared, actual, isMismatch, (Except.error.inj failed).symm⟩
    · rw [isFrame] at failed
      have headed := Frame.headed_iff.2 ⟨frame, isFrame, rfl⟩
      have refused : ofFrame reader? unexpected frame = .error fault := failed
      rcases ofFrame_outcomes reader? unexpected frame with
        ⟨unread, isRefused⟩ | ⟨-, short | ⟨message, read⟩⟩
      · rw [isRefused] at refused
        exact .inr ⟨frame.code, headed, unread, (Except.error.inj refused).symm⟩
      · rw [short] at refused
        exact absurd (Except.error.inj refused).symm other
      · rw [read] at refused
        cases refused
  · rintro (⟨declared, actual, mismatch, rfl⟩ | ⟨code, headed, unread, rfl⟩)
    · rw [Frame.decode_eq_lengthMismatch_iff.2 mismatch]
      rfl
    · obtain ⟨frame, isFrame, rfl⟩ := Frame.headed_iff.1 headed
      rw [isFrame]
      show ofFrame reader? unexpected frame = _
      simp only [ofFrame, unread]

theorem decode_outcomes (reader? : Kind → Option (Reader α)) (unexpected : TypeCode → Fault)
    (bytes : Bytes) :
    (∃ message, (Frame.decode bytes).bind (ofFrame reader? unexpected) = .ok message) ∨
      (Frame.decode bytes).bind (ofFrame reader? unexpected) = .error .short ∨
      (∃ declared actual, (Frame.decode bytes).bind (ofFrame reader? unexpected) =
        .error (.lengthMismatch declared actual)) ∨
      ∃ code, (Frame.decode bytes).bind (ofFrame reader? unexpected) =
        .error (unexpected code) := by
  cases result : (Frame.decode bytes).bind (ofFrame reader? unexpected) with
  | ok message => exact .inl ⟨message, rfl⟩
  | error fault =>
    by_cases short : fault = .short
    · exact .inr (.inl (by rw [short]))
    · rcases (decode_eq_error_iff short).1 result with
        ⟨declared, actual, -, rfl⟩ | ⟨code, -, -, rfl⟩
      · exact .inr (.inr (.inl ⟨declared, actual, rfl⟩))
      · exact .inr (.inr (.inr ⟨code, rfl⟩))

/-- A packet that was read has its code at the head. -/
theorem Dispatches.headed_of_decode {kind : α → Kind} {layout : Layout α}
    (dispatches : Dispatches reader? kind layout) {message : Message α}
    (read : (Frame.decode bytes).bind (ofFrame reader? unexpected) = .ok message) :
    Frame.Headed bytes (kind message.packet).code := by
  cases framed : Frame.decode bytes with
  | error fault =>
    rw [framed] at read
    cases read
  | ok frame =>
    rw [framed] at read
    have code := (dispatches.ofFrame_eq_ok_iff.1 read).1
    exact Frame.headed_iff.2 ⟨frame, framed, code⟩

end Message

namespace Request

variable {registry : Registry} {bytes : Bytes} {code : TypeCode}

theorem ofRequest_code (request : Request) : TypeCode.OfRequest request.kind.code :=
  (ofRequest_code_iff .initial request.kind).2 ((dispatches .initial).isSome request)

theorem decode_eq_error_iff {fault : Fault} (other : fault ≠ .short) :
    decode registry bytes = .error fault ↔
      (∃ declared actual, Frame.Mismatch bytes declared actual ∧
          fault = .lengthMismatch declared actual) ∨
        ∃ code, Frame.Headed bytes code ∧ ¬ code.OfRequest ∧
          fault = .unexpectedRequest code := by
  have unread := TypeCode.bind_eq_none_iff (fun _ => TypeCode.OfRequest.known)
    (ofRequest_code_iff registry)
  simp only [← unread]
  exact Message.decode_eq_error_iff other

theorem decode_eq_lengthMismatch_iff {declared actual : Nat} :
    decode registry bytes = .error (.lengthMismatch declared actual) ↔
      Frame.Mismatch bytes declared actual := by
  have other : Fault.lengthMismatch declared actual ≠ .short := nofun
  rw [decode_eq_error_iff other]
  simp [Fault.unexpectedRequest]

theorem decode_eq_status_iff {report : Status} :
    decode registry bytes = .error (.status report) ↔
      ∃ code, Frame.Headed bytes code ∧ ¬ code.OfRequest ∧
        report = .badMessage
          (Utf8.ofString ("unexpected request packet type: " ++ code.display)) := by
  have other : Fault.status report ≠ .short := nofun
  rw [decode_eq_error_iff other]
  simp [Fault.unexpectedRequest]

theorem decode_outcomes (registry : Registry) (bytes : Bytes) :
    (∃ message, decode registry bytes = .ok message) ∨ decode registry bytes = .error .short ∨
      (∃ declared actual, decode registry bytes = .error (.lengthMismatch declared actual)) ∨
      ∃ report, report.hasCode .badMessage = true ∧
        decode registry bytes = .error (.status report) := by
  rcases Message.decode_outcomes (reader? registry) Fault.unexpectedRequest bytes with
    read | short | mismatch | ⟨code, unexpected⟩
  · exact .inl read
  · exact .inr (.inl short)
  · exact .inr (.inr (.inl mismatch))
  · exact .inr (.inr (.inr ⟨_, rfl, unexpected⟩))

/-- Only of a packet that is sound but nothing to ask for are the bytes not to blame. -/
theorem isMalformed_of_decode {fault : Fault} (failed : decode registry bytes = .error fault) :
    fault.isMalformed = false ↔ ∃ report, fault = .status report := by
  by_cases short : fault = .short
  · simp [short, Fault.isMalformed]
  · rcases (decode_eq_error_iff short).1 failed with
      ⟨declared, actual, -, rfl⟩ | ⟨code, -, -, rfl⟩
    · simp [Fault.isMalformed]
    · simp [Fault.isMalformed, Fault.unexpectedRequest]

end Request

namespace Response

variable {bytes : Bytes} {code : TypeCode}

theorem ofResponse_code (response : Response) : TypeCode.OfResponse response.kind.code :=
  (ofResponse_code_iff response.kind).2 (dispatches.isSome response)

theorem decode_eq_error_iff {fault : Fault} (other : fault ≠ .short) :
    decode bytes = .error fault ↔
      (∃ declared actual, Frame.Mismatch bytes declared actual ∧
          fault = .lengthMismatch declared actual) ∨
        ∃ code, Frame.Headed bytes code ∧ ¬ code.OfResponse ∧
          fault = .unexpectedResponse code := by
  have unread := TypeCode.bind_eq_none_iff (fun _ => TypeCode.OfResponse.known)
    ofResponse_code_iff
  simp only [← unread]
  exact Message.decode_eq_error_iff other

theorem decode_eq_lengthMismatch_iff {declared actual : Nat} :
    decode bytes = .error (.lengthMismatch declared actual) ↔
      Frame.Mismatch bytes declared actual := by
  have other : Fault.lengthMismatch declared actual ≠ .short := nofun
  rw [decode_eq_error_iff other]
  simp [Fault.unexpectedResponse_ne_lengthMismatch.symm]

theorem decode_eq_unknownType_iff :
    decode bytes = .error (.unknownType code) ↔ Frame.Headed bytes code ∧ ¬ code.Known := by
  have other : Fault.unknownType code ≠ .short := nofun
  rw [decode_eq_error_iff other]
  constructor
  · rintro (⟨_, _, -, ⟨⟩⟩ | ⟨actual, headed, -, fault⟩)
    obtain ⟨rfl, unknown⟩ := Fault.unexpectedResponse_eq_unknownType_iff.1 fault.symm
    exact ⟨headed, unknown⟩
  · rintro ⟨headed, unknown⟩
    have fault := Fault.unexpectedResponse_eq_unknownType_iff.2 ⟨rfl, unknown⟩
    exact .inr ⟨code, headed, mt TypeCode.OfResponse.known unknown, fault.symm⟩

theorem decode_eq_unexpectedType_iff :
    decode bytes = .error (.unexpectedType code) ↔
      Frame.Headed bytes code ∧ code.Known ∧ ¬ code.OfResponse := by
  have other : Fault.unexpectedType code ≠ .short := nofun
  rw [decode_eq_error_iff other]
  constructor
  · rintro (⟨_, _, -, ⟨⟩⟩ | ⟨actual, headed, refused, fault⟩)
    obtain ⟨rfl, known⟩ := Fault.unexpectedResponse_eq_unexpectedType_iff.1 fault.symm
    exact ⟨headed, known, refused⟩
  · rintro ⟨headed, known, refused⟩
    have fault := Fault.unexpectedResponse_eq_unexpectedType_iff.2 ⟨rfl, known⟩
    exact .inr ⟨code, headed, refused, fault.symm⟩

theorem decode_outcomes (bytes : Bytes) :
    (∃ message, decode bytes = .ok message) ∨ decode bytes = .error .short ∨
      (∃ declared actual, decode bytes = .error (.lengthMismatch declared actual)) ∨
      (∃ code, decode bytes = .error (.unknownType code)) ∨
      ∃ code, decode bytes = .error (.unexpectedType code) := by
  rcases Message.decode_outcomes reader? Fault.unexpectedResponse bytes with
    read | short | mismatch | ⟨code, unexpected⟩
  · exact .inl read
  · exact .inr (.inl short)
  · exact .inr (.inr (.inl mismatch))
  · rw [Fault.unexpectedResponse_eq] at unexpected
    split at unexpected
    · exact .inr (.inr (.inr (.inr ⟨code, unexpected⟩)))
    · exact .inr (.inr (.inr (.inl ⟨code, unexpected⟩)))

theorem isMalformed_of_decode {fault : Fault} (failed : decode bytes = .error fault) :
    fault.isMalformed = true := by
  by_cases short : fault = .short
  · rw [short]
    rfl
  · rcases (decode_eq_error_iff short).1 failed with
      ⟨declared, actual, -, rfl⟩ | ⟨code, -, -, rfl⟩
    · rfl
    · exact Fault.isMalformed_unexpectedResponse code

end Response

/-! ## Both sides -/

/-- Bytes that are a request are refused as a response for their code. -/
theorem Response.decode_of_request {registry : Registry} {bytes : Bytes}
    {message : Message Request} (read : Request.decode registry bytes = .ok message) :
    decode bytes = .error (.unexpectedType message.packet.kind.code) := by
  have headed := (Request.dispatches registry).headed_of_decode read
  have isRequest := message.packet.ofRequest_code
  exact decode_eq_unexpectedType_iff.2 ⟨headed, isRequest.known, isRequest.not_ofResponse⟩

/-- Bytes that are a response are refused as a request for their code. -/
theorem Request.decode_of_response (registry : Registry) {bytes : Bytes}
    {message : Message Response} (read : Response.decode bytes = .ok message) :
    decode registry bytes = .error (.unexpectedRequest message.packet.kind.code) := by
  have headed := Response.dispatches.headed_of_decode read
  have isResponse := message.packet.ofResponse_code
  exact decode_eq_status_iff.2
    ⟨_, headed, fun isRequest => isRequest.not_ofResponse isResponse, rfl⟩

/-- Every outcome of bytes that are to be a packet, with the exact condition of each failure but
running short. None but that one looks at the body, no bytes are a packet of both sides, and the
bytes are to blame for every failure but that of a request whose code requests do not have. -/
theorem decode_classified (registry : Registry) (bytes : Bytes) :
    (((∃ message, Request.decode registry bytes = .ok message) ∨
        Request.decode registry bytes = .error .short ∨
        (∃ declared actual,
          Request.decode registry bytes = .error (.lengthMismatch declared actual)) ∨
        ∃ report, report.hasCode .badMessage = true ∧
          Request.decode registry bytes = .error (.status report)) ∧
      (∀ declared actual,
        Request.decode registry bytes = .error (.lengthMismatch declared actual) ↔
          Frame.Mismatch bytes declared actual) ∧
      (∀ report, Request.decode registry bytes = .error (.status report) ↔
        ∃ code, Frame.Headed bytes code ∧ ¬ code.OfRequest ∧
          report = .badMessage
            (Utf8.ofString ("unexpected request packet type: " ++ code.display))) ∧
      (∀ message, Request.decode registry bytes = .ok message →
        Response.decode bytes = .error (.unexpectedType message.packet.kind.code)) ∧
      ∀ fault, Request.decode registry bytes = .error fault →
        (fault.isMalformed = false ↔ ∃ report, fault = .status report)) ∧
    ((∃ message, Response.decode bytes = .ok message) ∨
        Response.decode bytes = .error .short ∨
        (∃ declared actual, Response.decode bytes = .error (.lengthMismatch declared actual)) ∨
        (∃ code, Response.decode bytes = .error (.unknownType code)) ∨
        ∃ code, Response.decode bytes = .error (.unexpectedType code)) ∧
      (∀ declared actual, Response.decode bytes = .error (.lengthMismatch declared actual) ↔
        Frame.Mismatch bytes declared actual) ∧
      (∀ code, Response.decode bytes = .error (.unknownType code) ↔
        Frame.Headed bytes code ∧ ¬ code.Known) ∧
      (∀ code, Response.decode bytes = .error (.unexpectedType code) ↔
        Frame.Headed bytes code ∧ code.Known ∧ ¬ code.OfResponse) ∧
      (∀ message, Response.decode bytes = .ok message →
        Request.decode registry bytes =
          .error (.unexpectedRequest message.packet.kind.code)) ∧
      ∀ fault, Response.decode bytes = .error fault → fault.isMalformed = true := by
  have requests : ∀ message, Request.decode registry bytes = .ok message →
      Response.decode bytes = .error (.unexpectedType message.packet.kind.code) :=
    fun _ => Response.decode_of_request
  have responses : ∀ message, Response.decode bytes = .ok message →
      Request.decode registry bytes = .error (.unexpectedRequest message.packet.kind.code) :=
    fun _ => Request.decode_of_response registry
  constructor
  · exact ⟨Request.decode_outcomes registry bytes,
      fun _ _ => Request.decode_eq_lengthMismatch_iff, fun _ => Request.decode_eq_status_iff,
      requests, fun _ => Request.isMalformed_of_decode⟩
  · exact ⟨Response.decode_outcomes bytes, fun _ _ => Response.decode_eq_lengthMismatch_iff,
      fun _ => Response.decode_eq_unknownType_iff,
      fun _ => Response.decode_eq_unexpectedType_iff, responses,
      fun _ => Response.isMalformed_of_decode⟩

/-- A code without a meaning, a frame with a byte to spare, a request to close, and a handle. -/
theorem decode_classified_sample :
    (Request.decode .initial [0, 0, 0, 5, 99, 0, 0, 0, 1] = .error (.unexpectedRequest 99) ∧
      Response.decode [0, 0, 0, 5, 99, 0, 0, 0, 1] = .error (.unknownType 99) ∧
      (Fault.unexpectedRequest 99).isMalformed = false ∧
      (Fault.unknownType 99).isMalformed = true) ∧
    Request.decode .initial [0, 0, 0, 1, 4, 7] = .error (.lengthMismatch 1 2) ∧
    Response.decode (Request.encode 1 (.onHandle .close [7])).bytes =
      .error (.unexpectedType 4) ∧
    Request.decode .initial (Response.encode 1 (.handle [7])).bytes =
      .error (.unexpectedRequest 102) := by
  obtain ⟨⟨-, -, status_iff, -, requestFault⟩, -, -, unknown_iff, -, -, responseFault⟩ :=
    decode_classified .initial [0, 0, 0, 5, 99, 0, 0, 0, 1]
  obtain ⟨⟨-, mismatch_iff, -⟩, -⟩ := decode_classified .initial [0, 0, 0, 1, 4, 7]
  obtain ⟨⟨-, -, -, notResponse, -⟩, -⟩ :=
    decode_classified .initial (Request.encode 1 (.onHandle .close [7])).bytes
  obtain ⟨-, -, -, -, -, notRequest, -⟩ :=
    decode_classified .initial (Response.encode 1 (.handle [7])).bytes
  have headed : Frame.Headed [0, 0, 0, 5, 99, 0, 0, 0, 1] 99 := ⟨rfl, rfl, by decide⟩
  have refused := (status_iff _).2 ⟨99, headed, by decide, rfl⟩
  have unknown := (unknown_iff 99).2 ⟨headed, by decide⟩
  have mismatch := (mismatch_iff 1 2).2 ⟨rfl, rfl, by decide⟩
  exact ⟨⟨refused, unknown, (requestFault _ refused).2 ⟨_, rfl⟩, responseFault _ unknown⟩,
    mismatch, notResponse { id := 1, packet := .onHandle .close [7] } rfl,
    notRequest { id := 1, packet := .handle [7] } rfl⟩

end SftpWire
