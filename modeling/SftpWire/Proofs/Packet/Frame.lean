import SftpWire.Packet.Frame
import SftpWire.Proofs.Wire.Reads

/-!
Frames as bytes. A frame is a string whose content is a code, an id and a body, so what is known of
strings carries over: `bytes_assemble_of_lt` says that packets are sent as such strings, and
`decode_eq_ok_iff` that nothing else is taken.
-/

namespace SftpWire.Frame

/-- The layout of the content of frames. Only a frame that carries an id has one to give back. -/
def layout : Layout Frame where
  write frame := head frame.code frame.id ++ frame.body
  Fits frame := frame.code.carriesId = false → frame.id = 0
  ToEnd _ := True

@[simp] theorem length_head (code : TypeCode) (id : UInt32) :
    (head code id).length = if code.carriesId then 5 else 1 := by
  cases carries : code.carriesId <;> simp [head, carries]

theorem reader_reads : reader.Reads layout := by
  rintro content ⟨code, id, body⟩ rest
  simp only [reader, Reader.run_bind, Outcome.bind_eq_done, Reader.run_byte_eq_done]
  constructor
  · intro read
    rcases read with ⟨first, middle, rfl, read⟩
    cases carries : TypeCode.carriesId first with
    | true =>
      simp only [carries, if_true, Reader.run_bind, Reader.run_pure, Outcome.bind_eq_done,
        Reader.run_word32_eq_done, Reader.run_remaining_eq_done, Outcome.done.injEq,
        mk.injEq] at read
      obtain ⟨_, _, rfl, _, _, ⟨rfl, rfl⟩, ⟨rfl, rfl, rfl⟩, rfl⟩ := read
      refine ⟨?_, fun none => absurd (carries.symm.trans none) nofun, fun _ => rfl⟩
      simp [layout, head, carries]
    | false =>
      simp only [carries, Bool.false_eq_true, if_false, Reader.run_bind, Reader.run_pure,
        Outcome.bind_done, Outcome.bind_eq_done, Reader.run_remaining_eq_done, Outcome.done.injEq,
        mk.injEq] at read
      obtain ⟨_, _, ⟨rfl, rfl⟩, ⟨rfl, rfl, rfl⟩, rfl⟩ := read
      refine ⟨?_, fun _ => rfl, fun _ => rfl⟩
      simp [layout, head, carries]
  · intro written
    rcases written with ⟨rfl, noId, last⟩
    obtain rfl := last trivial
    refine ⟨code, (if code.carriesId then Bytes.ofWord32 id else []) ++ body, ?_, ?_⟩
    · simp [layout, head]
    · cases carries : TypeCode.carriesId code with
      | true =>
        simp only [if_true, Reader.run_bind, Reader.run_word32_ofWord32, Outcome.bind_done]
        rfl
      | false =>
        obtain rfl := noId carries
        rfl

theorem ofContent_eq_ok_iff {content : Bytes} {frame : Frame} :
    ofContent content = .ok frame ↔
      content = head frame.code frame.id ++ frame.body ∧
        (frame.code.carriesId = false → frame.id = 0) := by
  rw [ofContent]
  constructor
  · intro read
    cases run : reader.run content with
    | short rest =>
      rw [run] at read
      cases read
    | done value rest =>
      rw [run] at read
      cases read
      obtain ⟨split, noId, last⟩ := (reader_reads ..).1 run
      rw [last trivial, List.append_nil] at split
      exact ⟨split, noId⟩
  · intro written
    rcases written with ⟨rfl, noId⟩
    have run : reader.run (head frame.code frame.id ++ frame.body) = .done frame [] :=
      (reader_reads ..).2 ⟨(List.append_nil _).symm, noId, fun _ => rfl⟩
    rw [run]
    rfl

/-- A reader of frames fails in one way only. -/
theorem ofContent_eq_short_or_ok (content : Bytes) :
    ofContent content = .error .short ∨ ∃ frame, ofContent content = .ok frame := by
  rw [ofContent]
  cases reader.run content with
  | short rest => exact .inl rfl
  | done frame rest => exact .inr ⟨frame, rfl⟩

theorem decode_of_length_lt {bytes : Bytes} (few : bytes.length < 4) :
    decode bytes = .error .short := by
  rw [decode, Reader.run_word32_eq_short.2 ⟨few, rfl⟩]

theorem decode_ofWord32_append (word : UInt32) (content : Bytes) :
    decode (Bytes.ofWord32 word ++ content) =
      if content.length < word.toNat then .error .short
      else if word.toNat < content.length then
        .error (.lengthMismatch word.toNat content.length)
      else ofContent content := by
  rw [decode, Reader.run_word32_ofWord32]

/-- A string is read as the frame of its content. -/
theorem decode_ofString {content : Bytes} (small : content.length < 4294967296) :
    decode (Bytes.ofString content) = ofContent content := by
  have length : (UInt32.ofNat content.length).toNat = content.length :=
    UInt32.toNat_ofNat_of_lt' small
  rw [Bytes.ofString_eq small, decode_ofWord32_append, length]
  simp only [Nat.lt_irrefl, if_false]

/-- Nothing but a string is read as a frame. -/
theorem eq_ofString_of_decode {bytes : Bytes} {frame : Frame} (read : decode bytes = .ok frame) :
    ∃ content, bytes = Bytes.ofString content ∧ content.length < 4294967296 ∧
      ofContent content = .ok frame := by
  by_cases few : bytes.length < 4
  · rw [decode_of_length_lt few] at read
    cases read
  · obtain ⟨declared, content, rfl⟩ := Reader.exists_word32_append (Nat.le_of_not_lt few)
    rw [decode_ofWord32_append] at read
    by_cases more : content.length < declared.toNat
    · rw [if_pos more] at read
      cases read
    · by_cases less : declared.toNat < content.length
      · rw [if_neg more, if_pos less] at read
        cases read
      · rw [if_neg more, if_neg less] at read
        have exact : content.length = declared.toNat := by omega
        have small : content.length < 4294967296 := exact ▸ declared.toNat_lt
        refine ⟨content, ?_, small, read⟩
        rw [Bytes.ofString_eq small, exact, UInt32.ofNat_toNat]

theorem decode_eq_ok_iff {bytes : Bytes} {frame : Frame} :
    decode bytes = .ok frame ↔
      ∃ content, bytes = Bytes.ofString content ∧ content.length < 4294967296 ∧
        ofContent content = .ok frame := by
  refine ⟨eq_ofString_of_decode, ?_⟩
  rintro ⟨content, rfl, small, read⟩
  rw [decode_ofString small, read]

/-- The header ends with the fields, and the length in front counts the bulk as well. -/
theorem header_assemble (code : TypeCode) (id : UInt32) (fields bulk : Bytes) :
    (assemble code id fields bulk).header =
      Bytes.ofWord32 (Bytes.lengthWord (head code id ++ (fields ++ bulk)).length) ++
        (head code id ++ fields) := by
  have length : (room ++ head code id ++ fields).length - 4 + bulk.length =
      (head code id ++ (fields ++ bulk)).length := by
    simp only [room, List.length_append, List.length_cons, List.length_nil]
    omega
  have draft : (room ++ head code id ++ fields).drop 4 = head code id ++ fields := by
    simp [room]
  show setLength _ (room ++ head code id ++ fields) = _
  rw [setLength, length, draft]

theorem payload_assemble (code : TypeCode) (id : UInt32) (fields bulk : Bytes) :
    (assemble code id fields bulk).payload.getD [] = bulk := by
  cases bulk <;> rfl

/-- Fields and bulk stand behind the head, and the length in front counts all three. -/
theorem bytes_assemble (code : TypeCode) (id : UInt32) (fields bulk : Bytes) :
    (assemble code id fields bulk).bytes =
      Bytes.ofWord32 (Bytes.lengthWord (head code id ++ (fields ++ bulk)).length) ++
        (head code id ++ (fields ++ bulk)) := by
  rw [Encoded.bytes, header_assemble, payload_assemble, List.append_assoc, List.append_assoc]

theorem bytes_assemble_of_lt {code : TypeCode} {id : UInt32} {fields bulk : Bytes}
    (small : (head code id ++ (fields ++ bulk)).length < 4294967296) :
    (assemble code id fields bulk).bytes =
      Bytes.ofString (head code id ++ (fields ++ bulk)) := by
  rw [bytes_assemble, Bytes.ofString_eq small, Bytes.lengthWord, if_pos small]

end SftpWire.Frame
