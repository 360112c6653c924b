import SftpWire.Proofs.Outcomes
import SftpWire.Proofs.Stream.Framing

/-!
How much of a stream is taken, whatever stands on it. The length in front decides: of a frame that
is too long only the length is taken, of any other frame all of it, good or bad, and where a frame
is cut off the stream is at its end. `Call.exists_takes` says this of one call on any stream. By
induction on the calls, a run of them cuts the stream into slices, one behind the other, of which
none is longer than a frame of the greatest length: `exists_slices_run`.
-/

namespace SftpWire

/-- Failures for the content of a frame, which is looked at only when all of it is there. -/
def Fault.OfContent : Fault → Prop
  | .short | .unknownType _ | .unexpectedType _ => True
  | .status report => report.hasCode .badMessage = true
  | .tooLong .. | .lengthMismatch .. | .io _ => False

theorem Fault.unexpectedRequest_ofContent (code : TypeCode) :
    (unexpectedRequest code).OfContent := rfl

theorem Fault.unexpectedResponse_ofContent (code : TypeCode) :
    (unexpectedResponse code).OfContent := by
  rw [unexpectedResponse_eq]
  split <;> trivial

/-- A frame of which no packet can be made fails for its content, on either side. -/
theorem Message.ofContent_of_ofFrame {α : Type} {reader? : Kind → Option (Reader α)}
    {unexpected : TypeCode → Fault} (refuses : ∀ code, (unexpected code).OfContent) {frame : Frame}
    {fault : Fault} (failed : ofFrame reader? unexpected frame = .error fault) :
    fault.OfContent := by
  rcases ofFrame_outcomes reader? unexpected frame with
    ⟨-, refused⟩ | ⟨-, short | ⟨message, read⟩⟩
  · rw [refused] at failed
    cases failed
    exact refuses frame.code
  · rw [short] at failed
    cases failed
    trivial
  · rw [read] at failed
    cases failed

/-- An admitted frame can lack its code or its id, but its length is right. -/
theorem Limits.Admits.decode_frame {limits : Limits} {bytes : Bytes}
    (admits : limits.Admits bytes) :
    Frame.decode bytes = .error .short ∨ ∃ frame, Frame.decode bytes = .ok frame := by
  obtain ⟨length, content, rfl, counted, -⟩ := admits
  rw [Frame.decode_ofWord32_append, counted, if_neg (Nat.lt_irrefl _), if_neg (Nat.lt_irrefl _)]
  exact Frame.ofContent_eq_short_or_ok content

namespace Source

variable {limits : Limits} {registry : Registry} {length : UInt32} {stream rest frame : Bytes}

/-! ## What stands in front -/

/-- What can stand at the front of a stream. -/
inductive Front (limits : Limits) : Bytes → Prop where
  /-- Not even a length. -/
  | bare {stream : Bytes} (few : stream.length < 4) : Front limits stream
  /-- The length of a frame that is too long. -/
  | tooLong {length : UInt32} {rest : Bytes} (beyond : limits.maxPacketLength < length) :
    Front limits (Bytes.ofWord32 length ++ rest)
  /-- A frame that is cut off. -/
  | part {length : UInt32} {rest : Bytes} (within : length ≤ limits.maxPacketLength)
    (missing : rest.length < length.toNat) : Front limits (Bytes.ofWord32 length ++ rest)
  /-- A frame, good or bad. -/
  | whole {frame rest : Bytes} (admits : limits.Admits frame) : Front limits (frame ++ rest)

theorem front (limits : Limits) (stream : Bytes) : Front limits stream := by
  by_cases few : stream.length < 4
  · exact .bare few
  · obtain ⟨length, rest, rfl⟩ := Reader.exists_word32_append (Nat.le_of_not_lt few)
    by_cases beyond : limits.maxPacketLength < length
    · exact .tooLong beyond
    · have within := UInt32.not_lt.1 beyond
      by_cases missing : rest.length < length.toNat
      · exact .part within missing
      · have counted : (rest.take length.toNat).length = length.toNat :=
          List.length_take_of_le (Nat.le_of_not_lt missing)
        have admits : limits.Admits (Bytes.ofWord32 length ++ rest.take length.toNat) :=
          ⟨length, _, rfl, counted.symm, within⟩
        have split : Bytes.ofWord32 length ++ rest =
            Bytes.ofWord32 length ++ rest.take length.toNat ++ rest.drop length.toNat := by
          rw [List.append_assoc, List.take_append_drop]
        rw [split]
        exact .whole admits

/-! ## One call -/

/-- An item, or a failure for the content of a frame. -/
def Whole : Except Fault Item → Prop
  | .ok _ => True
  | .error fault => fault.OfContent

/-- The stream ended. -/
def Ended (result : Except Fault Item) : Prop :=
  ∃ text, result = .error (.io { kind := .unexpectedEof, text })

theorem Call.run_of_readFrame {fault : Fault} {next : Bytes} (call : Call)
    (failed : readFrame limits stream = (.error fault, next)) :
    call.run limits registry stream = (.error fault, next) := by
  cases call <;> simp only [Call.run, readRequest, readResponse, failed] <;> rfl

theorem Call.run_of_length_lt (call : Call) (few : stream.length < 4) :
    call.run limits registry stream = (.error endInLength, []) := by
  apply call.run_of_readFrame
  rw [readFrame, Reader.run_word32_eq_short.2 ⟨few, rfl⟩]

/-- Nothing behind the length of a frame that is too long is looked at. -/
theorem Call.run_tooLong (call : Call) (beyond : limits.maxPacketLength < length) (rest : Bytes) :
    call.run limits registry (Bytes.ofWord32 length ++ rest) =
      (.error (.tooLong length.toNat limits.maxPacketLength.toNat), rest) := by
  apply call.run_of_readFrame
  rw [readFrame, Reader.run_word32_ofWord32]
  simp only [if_pos beyond]

theorem Call.run_part (call : Call) (within : length ≤ limits.maxPacketLength)
    (missing : rest.length < length.toNat) :
    call.run limits registry (Bytes.ofWord32 length ++ rest) = (.error endInFrame, []) := by
  apply call.run_of_readFrame
  rw [readFrame, Reader.run_word32_ofWord32]
  simp only [if_neg (UInt32.not_lt.2 within), Bytes.split?_eq_none_iff.2 missing]

/-- A frame that is there makes an item or fails for its content. -/
theorem Call.whole_decode (call : Call) (admits : limits.Admits frame) :
    Whole (call.decode registry frame) := by
  rcases admits.decode_frame with short | ⟨held, isFrame⟩
  · cases call <;> simp only [Call.decode, Request.decode, Response.decode, short] <;> trivial
  · cases call with
    | frame =>
      rw [Call.decode, isFrame]
      trivial
    | request =>
      rw [Call.decode, Request.decode_of_frame isFrame]
      cases read : Request.ofFrame registry held with
      | ok message => trivial
      | error fault => exact Message.ofContent_of_ofFrame Fault.unexpectedRequest_ofContent read
    | response =>
      rw [Call.decode, Response.decode_of_frame isFrame]
      cases read : Response.ofFrame held with
      | ok message => trivial
      | error fault => exact Message.ofContent_of_ofFrame Fault.unexpectedResponse_ofContent read

/-- What a call that gave `result` did to a stream: it took some bytes off the front and left the
others. How many it took follows from what it gave. -/
structure Takes (limits : Limits) (stream : Bytes) (result : Except Fault Item)
    (taken left : Bytes) : Prop where
  stream_eq : stream = taken ++ left
  length_le : taken.length ≤ 4 + limits.maxPacketLength.toNat
  outcome : Whole result ∨ (∃ length max, result = .error (.tooLong length max)) ∨ Ended result
  /-- The frame was taken to its end, as its length has it. -/
  of_whole : Whole result → taken.length = 4 + Bytes.value (taken.take 4)
  /-- Nothing but the length was taken, and where it stands in front, whatever follows it, every
  call gives the same. -/
  of_tooLong : ∀ length max, result = .error (.tooLong length max) →
    taken.length = 4 ∧ length = Bytes.value taken ∧ max = limits.maxPacketLength.toNat ∧
      max < length ∧
      ∀ (other : Call) (names : Registry) (more : Bytes),
        other.run limits names (taken ++ more) = (result, more)
  ended_iff : Ended result ↔
    stream.length < 4 ∨
      Bytes.value (stream.take 4) ≤ limits.maxPacketLength.toNat ∧
        stream.length < 4 + Bytes.value (stream.take 4)

theorem Whole.not_ended {result : Except Fault Item} (whole : Whole result) : ¬ Ended result := by
  rintro ⟨text, rfl⟩
  exact whole

theorem takes_of_length_lt (limits : Limits) (few : stream.length < 4) :
    Takes limits stream (.error endInLength) stream [] where
  stream_eq := (List.append_nil stream).symm
  length_le := by omega
  outcome := .inr (.inr ⟨_, rfl⟩)
  of_whole := False.elim
  of_tooLong := nofun
  ended_iff := iff_of_true ⟨_, rfl⟩ (.inl few)

theorem takes_tooLong (beyond : limits.maxPacketLength < length) (rest : Bytes) :
    Takes limits (Bytes.ofWord32 length ++ rest)
      (.error (.tooLong length.toNat limits.maxPacketLength.toNat))
      (Bytes.ofWord32 length) rest := by
  have most := UInt32.lt_iff_toNat_lt.1 beyond
  have four := Bytes.length_ofWord32 length
  refine ⟨rfl, by omega, .inr (.inl ⟨_, _, rfl⟩), False.elim, ?_, ?_⟩
  · intro n max isTooLong
    cases isTooLong
    refine ⟨four, (Bytes.value_ofWord32 length).symm, rfl, most, ?_⟩
    exact fun other names more => other.run_tooLong beyond more
  · rw [Bytes.value_take_ofWord32_append, List.length_append, four]
    refine iff_of_false nofun ?_
    omega

theorem takes_part (within : length ≤ limits.maxPacketLength)
    (missing : rest.length < length.toNat) :
    Takes limits (Bytes.ofWord32 length ++ rest) (.error endInFrame)
      (Bytes.ofWord32 length ++ rest) [] := by
  have most := UInt32.le_iff_toNat_le.1 within
  have total : (Bytes.ofWord32 length ++ rest).length = 4 + rest.length := by
    rw [List.length_append, Bytes.length_ofWord32]
  refine ⟨(List.append_nil _).symm, by omega, .inr (.inr ⟨_, rfl⟩), False.elim, nofun, ?_⟩
  rw [Bytes.value_take_ofWord32_append, total]
  refine iff_of_true ⟨_, rfl⟩ (.inr ?_)
  omega

theorem takes_frame (admits : limits.Admits frame) {result : Except Fault Item}
    (whole : Whole result) (rest : Bytes) : Takes limits (frame ++ rest) result frame rest := by
  obtain ⟨length, content, rfl, counted, within⟩ := admits
  have most := UInt32.le_iff_toNat_le.1 within
  have total : (Bytes.ofWord32 length ++ content).length = 4 + length.toNat := by
    rw [List.length_append, Bytes.length_ofWord32, counted]
  refine ⟨rfl, by omega, .inl whole, ?_, ?_, iff_of_false whole.not_ended ?_⟩
  · intro _
    rw [Bytes.value_take_ofWord32_append, total]
  · rintro n max rfl
    exact whole.elim
  · rw [List.append_assoc, Bytes.value_take_ofWord32_append, ← List.append_assoc,
      List.length_append, total]
    omega

/-- A call takes what it is to take, whatever stands on the stream. -/
theorem Call.exists_takes (limits : Limits) (registry : Registry) (call : Call) (stream : Bytes) :
    ∃ taken, Takes limits stream (call.run limits registry stream).1 taken
      (call.run limits registry stream).2 := by
  cases front limits stream with
  | bare few =>
    rw [call.run_of_length_lt few]
    exact ⟨stream, takes_of_length_lt limits few⟩
  | tooLong beyond =>
    rw [call.run_tooLong beyond]
    exact ⟨_, takes_tooLong beyond _⟩
  | part within missing =>
    rw [call.run_part within missing]
    exact ⟨_, takes_part within missing⟩
  | whole admits =>
    rw [call.run_append admits]
    exact ⟨_, takes_frame admits (call.whole_decode admits) _⟩

/-! ## Calls in a row -/

/-- Calls that gave results and left streams behind them took slices: each took its own off the
front of the stream that the one before it left. -/
inductive Slices (limits : Limits) :
    Bytes → List (Except Fault Item × Bytes) → List Bytes → Prop where
  | nil {stream : Bytes} : Slices limits stream [] []
  | cons {stream taken left : Bytes} {result : Except Fault Item}
    {results : List (Except Fault Item × Bytes)} {slices : List Bytes}
    (first : Takes limits stream result taken left) (others : Slices limits left results slices) :
    Slices limits stream ((result, left) :: results) (taken :: slices)

/-- Whatever stands on a stream and however it is read, every call takes a slice of it that begins
where the one before stopped: a frame if it gives an item or fails for the content of a frame, four
bytes if it finds a frame too long, and never more than the longest frame. No other call fails but
at the end of the stream. -/
theorem exists_slices_run (limits : Limits) (registry : Registry) (calls : List Call)
    (stream : Bytes) :
    ∃ slices, slices.length = calls.length ∧
      Slices limits stream (run limits registry calls stream) slices ∧
      stream = slices.flatten ++ after limits registry calls stream := by
  induction calls generalizing stream with
  | nil => exact ⟨[], rfl, .nil, rfl⟩
  | cons call calls ih =>
    obtain ⟨taken, first⟩ := call.exists_takes limits registry stream
    obtain ⟨slices, count, others, split⟩ := ih (call.run limits registry stream).2
    refine ⟨taken :: slices, congrArg Nat.succ count, .cons first others, ?_⟩
    rw [List.flatten_cons, List.append_assoc]
    show stream = taken ++ (slices.flatten ++
      after limits registry calls (call.run limits registry stream).2)
    rw [← split]
    exact first.stream_eq

end Source

end SftpWire
