import SftpWire.Proofs.Packet.Request
import SftpWire.Proofs.Wire.Prefix

/-!
Extended requests. The name in front of a payload decides how the payload is read: what comes of the
frame is what the reader of that layout makes of the bytes behind the name (`IsExtended.decode_eq`).
From this follows which requests come back. The sender writes a payload in the layout that it is in,
the receiver reads it in the layout of the name, and `decode_encode_extended` says what comes of it
when the two differ.
-/

namespace SftpWire.Request

/-- Bytes are the frame of an extended request: behind the head stand a name and the rest. -/
structure IsExtended (bytes : Bytes) (id : UInt32) (name rest : Bytes) : Prop where
  bytes_eq :
    bytes = Bytes.ofString (Frame.head Kind.extended.code id ++ (Bytes.ofString name ++ rest))
  counted : (Frame.head Kind.extended.code id ++ (Bytes.ofString name ++ rest)).length < 4294967296

variable {registry : Registry} {bytes name rest : Bytes} {id : UInt32}

namespace IsExtended

theorem length_name_lt (isExtended : IsExtended bytes id name rest) : name.length < 4294967296 := by
  have counted := isExtended.counted
  rw [List.length_append, List.length_append] at counted
  exact Bytes.length_lt_of_length_ofString_lt (by omega)

theorem decode_frame (isExtended : IsExtended bytes id name rest) :
    Frame.decode bytes =
      .ok { code := Kind.extended.code, id, body := Bytes.ofString name ++ rest } := by
  rw [isExtended.bytes_eq, Frame.decode_ofString isExtended.counted]
  exact Frame.ofContent_eq_ok_iff.2 ⟨rfl, nofun⟩

/-- A frame holds one name. -/
theorem name_eq {id' : UInt32} {name' rest' : Bytes} (isExtended : IsExtended bytes id name rest)
    (isExtended' : IsExtended bytes id' name' rest') : name = name' := by
  have frames := isExtended.decode_frame.symm.trans isExtended'.decode_frame
  have bodies := congrArg Frame.body (Except.ok.inj frames)
  exact (Bytes.ofString_append_inj isExtended.length_name_lt isExtended'.length_name_lt bodies).1

end IsExtended

/-- A frame of that code whose name can be read is the frame of an extended request. -/
theorem isExtended_of_decode {frame : Frame} (isFrame : Frame.decode bytes = .ok frame)
    (code : frame.code = Kind.extended.code)
    (named : Reader.string.run frame.body = .done name rest) :
    IsExtended bytes frame.id name rest := by
  obtain ⟨content, rfl, small, held⟩ := Frame.decode_eq_ok_iff.1 isFrame
  obtain ⟨rfl, -⟩ := Frame.ofContent_eq_ok_iff.1 held
  rw [(Reader.run_string_eq_done.1 named).1, code] at small ⊢
  exact ⟨rfl, small⟩

theorem ofFrame_extended (registry : Registry) {frame : Frame}
    (code : frame.code = Kind.extended.code) :
    ofFrame registry frame =
      ((extendedReader registry).run frame.body).toExcept.map fun packet =>
        { id := frame.id, packet } := by
  have found : (Kind.ofCode? frame.code).bind (reader? registry) =
      some (extendedReader registry) := by
    rw [code]
    rfl
  simp only [ofFrame, Message.ofFrame, found]
  cases (extendedReader registry).run frame.body <;> rfl

/-- What comes of the frame of an extended request: what the reader for its name makes of the bytes
behind the name. -/
theorem IsExtended.decode_eq (isExtended : IsExtended bytes id name rest) (registry : Registry) :
    decode registry bytes =
      ((registry.resolve name).reader.run rest).toExcept.map fun payload =>
        { id, packet := .extended name payload } := by
  have named := Reader.run_string_ofString isExtended.length_name_lt rest
  rw [decode_of_frame isExtended.decode_frame, ofFrame_extended registry rfl]
  simp only [extendedReader, Reader.run_bind, named, Outcome.bind_done, Reader.run_pure]
  cases (registry.resolve name).reader.run rest <;> rfl

/-! ## There and back -/

/-- An extended request is sent as its name and its payload, behind the length of both. -/
theorem bytes_encode_extended (id : UInt32) (name : Bytes) (payload : Payload) :
    (encode id (.extended name payload)).bytes =
      Bytes.ofWord32 (Bytes.lengthWord
          (Frame.head Kind.extended.code id ++ (Bytes.ofString name ++ payload.bytes)).length) ++
        (Frame.head Kind.extended.code id ++ (Bytes.ofString name ++ payload.bytes)) := by
  have sent := Frame.bytes_assemble Kind.extended.code id (Bytes.ofString name ++ payload.bytes) []
  rwa [List.append_nil] at sent

theorem isExtended_encode {payload : Payload}
    (small : (encode id (.extended name payload)).bytes.length < 4 + 4294967296) :
    IsExtended (encode id (.extended name payload)).bytes id name payload.bytes := by
  rw [bytes_encode_extended] at small ⊢
  rw [List.length_append, Bytes.length_ofWord32] at small
  have counted := Nat.lt_of_add_lt_add_left small
  exact ⟨by rw [Bytes.ofString_eq counted, Bytes.lengthWord, if_pos counted], counted⟩

/-- A frame that is longer than its length can say is refused for its length. -/
theorem decode_encode_extended_of_le (registry : Registry) {payload : Payload}
    (large : 4 + 4294967296 ≤ (encode id (.extended name payload)).bytes.length) :
    ∃ actual, decode registry (encode id (.extended name payload)).bytes =
      .error (.lengthMismatch 4294967295 actual) := by
  rw [bytes_encode_extended] at large ⊢
  rw [List.length_append, Bytes.length_ofWord32] at large
  generalize Frame.head Kind.extended.code id ++ (Bytes.ofString name ++ payload.bytes) =
    content at large ⊢
  have declared : (Bytes.lengthWord content.length).toNat = 4294967295 := by
    rw [Bytes.toNat_lengthWord]
    omega
  rw [decode, Frame.decode_ofWord32_append, declared, if_neg (by omega), if_pos (by omega)]
  exact ⟨_, rfl⟩

theorem extended_beq_iff {payload payload' : Payload} :
    (Request.extended name payload == .extended name payload') = true ↔
      payload.bytes = payload'.bytes := by
  have byParts : (Request.extended name payload == .extended name payload') =
      (name == name && payload.bytes == payload'.bytes) := rfl
  rw [byParts, beq_self_eq_true, Bool.true_and, beq_iff_eq]

/-- The bytes that a payload is read from are those that it is written as, and then the rest. -/
theorem bytes_eq_of_run {kind : PayloadKind} {back : Payload}
    (run : kind.reader.run bytes = .done back rest) : bytes = back.bytes ++ rest :=
  (PayloadKind.run_reader_eq_done.1 run).2.bytes_eq

/-- An extended request comes back exactly when the layout of its name, whatever the layout of its
payload, leaves nothing of the payload's bytes, as it is with the layout of no name. Where the bytes
run out the request is refused, and where some are left over a shorter payload comes back. A frame
that is longer than its length can say never comes back. -/
theorem decode_encode_extended (registry : Registry) (id : UInt32) (name : Bytes)
    (payload : Payload) (sent : Bytes)
    (isSent : (encode id (.extended name payload)).bytes = sent) :
    (sent.length < 4 + 4294967296 →
      ((∃ back, decode registry sent = .ok { id, packet := back } ∧
          (back == .extended name payload) = true) ↔
        registry.resolve name = .raw ∨
          ∃ back, (registry.resolve name).reader.run payload.bytes = .done back []) ∧
      (∀ left, (registry.resolve name).reader.run payload.bytes = .short left →
        decode registry sent = .error .short) ∧
      ∀ back rest, (registry.resolve name).reader.run payload.bytes = .done back rest →
        rest ≠ [] →
          decode registry sent = .ok { id, packet := .extended name back } ∧
            back.bytes <+: payload.bytes ∧ back.bytes ≠ payload.bytes) ∧
    (4 + 4294967296 ≤ sent.length →
      ∃ actual, decode registry sent = .error (.lengthMismatch 4294967295 actual)) := by
  subst isSent
  refine ⟨?_, decode_encode_extended_of_le registry⟩
  intro small
  have read := (isExtended_encode small).decode_eq registry
  refine ⟨⟨?_, ?_⟩, ?_, ?_⟩
  · rintro ⟨back, isBack, same⟩
    rw [read] at isBack
    cases run : (registry.resolve name).reader.run payload.bytes with
    | short left =>
      rw [run] at isBack
      cases isBack
    | done back' rest =>
      rw [run] at isBack
      cases isBack
      have split := bytes_eq_of_run run
      rw [← extended_beq_iff.1 same] at split
      obtain rfl := List.self_eq_append_right.1 split
      exact .inr ⟨back', rfl⟩
  · intro complete
    have consumed : ∃ back, (registry.resolve name).reader.run payload.bytes = .done back [] := by
      rcases complete with isRaw | consumed
      · rw [isRaw]
        exact ⟨.raw payload.bytes, rfl⟩
      · exact consumed
    obtain ⟨back, run⟩ := consumed
    have split := bytes_eq_of_run run
    rw [List.append_nil] at split
    rw [read, run]
    exact ⟨_, rfl, extended_beq_iff.2 split.symm⟩
  · intro left run
    rw [read, run]
    rfl
  · intro back rest run some
    have split := bytes_eq_of_run run
    rw [read, run]
    refine ⟨rfl, ⟨rest, split.symm⟩, ?_⟩
    intro same
    rw [same] at split
    exact some (List.self_eq_append_right.1 split)

/-- Without the bound an extended request need not come back, although the layout of its name leaves
nothing of the payload's bytes. -/
theorem decode_encode_extended_overlong :
    Registry.initial.resolve [] = .raw ∧
      (Registry.initial.resolve []).reader.run (Payload.raw Bytes.overlong).bytes =
        .done (.raw Bytes.overlong) [] ∧
      ¬ ∃ back, decode .initial (encode 7 (.extended [] (.raw Bytes.overlong))).bytes =
          .ok { id := 7, packet := back } ∧
        (back == .extended [] (.raw Bytes.overlong)) = true := by
  have isRaw : Registry.initial.resolve [] = .raw := by decide
  have large : 4 + 4294967296 ≤ (encode 7 (.extended [] (.raw Bytes.overlong))).bytes.length := by
    have data : (Payload.raw Bytes.overlong).bytes = Bytes.overlong := rfl
    rw [bytes_encode_extended, data]
    simp only [List.length_append, Bytes.length_ofWord32, Bytes.length_overlong]
    omega
  obtain ⟨actual, refused⟩ := decode_encode_extended_of_le .initial large
  refine ⟨isRaw, ?_, ?_⟩
  · rw [isRaw]
    rfl
  · rintro ⟨back, isBack, -⟩
    rw [refused] at isBack
    cases isBack

/-- Under the name of a request that carries one string: a payload of another layout that is one
string too, one that is two strings, and one that is none. -/
theorem decode_encode_extended_sample :
    (∃ back, decode (Registry.initial.register "a" .fsync)
        (encode 7 (.extended [0x61] (.statvfs [1]))).bytes = .ok { id := 7, packet := back } ∧
      (back == .extended [0x61] (.statvfs [1])) = true) ∧
    decode (Registry.initial.register "a" .fsync)
        (encode 7 (.extended [0x61] (.hardlink [1] [2]))).bytes =
      .ok { id := 7, packet := .extended [0x61] (.fsync [1]) } ∧
    decode (Registry.initial.register "a" .fsync) (encode 7 (.extended [0x61] (.raw [0]))).bytes =
      .error .short := by
  have resolves : (Registry.initial.register "a" .fsync).resolve [0x61] = .fsync := by decide
  have whole := (decode_encode_extended (Registry.initial.register "a" .fsync) 7 [0x61]
    (.statvfs [1]) _ rfl).1 (by decide)
  have early := (decode_encode_extended (Registry.initial.register "a" .fsync) 7 [0x61]
    (.hardlink [1] [2]) _ rfl).1 (by decide)
  have short := (decode_encode_extended (Registry.initial.register "a" .fsync) 7 [0x61]
    (.raw [0]) _ rfl).1 (by decide)
  rw [resolves] at whole early short
  exact ⟨whole.1.2 (.inr ⟨.fsync [1], rfl⟩), (early.2.2 (.fsync [1]) _ rfl nofun).1,
    short.2.1 _ rfl⟩

end SftpWire.Request
