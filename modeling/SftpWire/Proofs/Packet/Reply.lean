import SftpWire.Packet.Open
import SftpWire.Proofs.Packet.Response

/-!
Replies to extended requests, read again in a layout. A reply does not name its extension, so its
payload crosses the wire as bytes; what is read of it afterwards goes by how it was written and by
nothing else. An `OpenReply` carries a payload of any type, known here or not. Main statements:
`OpenReply.readAs_eq_ok_iff` and `OpenReply.readAs_eq_error_iff`, which say what is read of a reply
and when nothing is, and `OpenReply.readAs_of_decode`, by which it does not matter whether the reply
was sent in between.
-/

namespace SftpWire.OpenReply

variable {π : Type} {reply : OpenReply π} {kind : PayloadKind} {payload : Payload}

theorem encode_reply (id : UInt32) (payload : Payload) :
    payload.reply.encode id = Response.encode id (.extendedReply payload) := rfl

theorem readAs_reply (kind : PayloadKind) (payload : Payload) :
    payload.reply.readAs kind = payload.readAs kind := rfl

theorem length_written_lt {id : UInt32} (small : (reply.encode id).bytes.length < 4294967296) :
    reply.written.length < 4294967296 := by
  rw [encode, Frame.bytes_assemble] at small
  simp only [List.length_append] at small
  omega

/-- A payload is read where it stands in front, and a payload of no layout takes everything. -/
theorem readAs_eq_ok_iff :
    reply.readAs kind = .ok payload ↔
      payload.kind = kind ∧ payload.Fits ∧ payload.bytes <+: reply.written ∧
        (kind = .raw → payload.bytes = reply.written) := by
  have read : reply.readAs kind = .ok payload ↔
      ∃ rest, kind.reader.run reply.written = .done payload rest := by
    rw [readAs]
    cases kind.reader.run reply.written <;> simp [Outcome.toExcept]
  simp only [read, PayloadKind.run_reader_eq_done]
  constructor
  · rintro ⟨rest, rfl, split, fits, last⟩
    refine ⟨rfl, fits, ⟨rest, split.symm⟩, fun isRaw => ?_⟩
    rw [split, last isRaw, List.append_nil]
    rfl
  · rintro ⟨rfl, fits, ⟨rest, split⟩, whole⟩
    refine ⟨rest, rfl, split.symm, fits, fun isRaw => ?_⟩
    rw [← whole isRaw] at split
    exact List.append_right_eq_self.1 split

/-- Nothing is read exactly when no payload of the kind stands in front, and then it is because the
bytes run out. -/
theorem readAs_eq_error_iff {fault : Fault} :
    reply.readAs kind = .error fault ↔
      fault = .short ∧ ∀ payload : Payload, payload.kind = kind → payload.Fits →
        ¬ payload.bytes <+: reply.written := by
  constructor
  · intro failed
    have short : fault = .short := by
      rw [readAs] at failed
      cases run : kind.reader.run reply.written <;> rw [run] at failed <;> cases failed
      rfl
    refine ⟨short, fun payload isKind fits front => ?_⟩
    by_cases isRaw : kind = .raw
    · have read : reply.readAs kind = .ok (.raw reply.written) :=
        readAs_eq_ok_iff.2 ⟨isRaw.symm, trivial, List.prefix_rfl, fun _ => rfl⟩
      rw [read] at failed
      cases failed
    · rw [readAs_eq_ok_iff.2 ⟨isKind, fits, front, fun whole => absurd whole isRaw⟩] at failed
      cases failed
  · rintro ⟨rfl, none⟩
    cases run : kind.reader.run reply.written with
    | short rest =>
      rw [readAs, run]
      rfl
    | done payload rest =>
      have read : reply.readAs kind = .ok payload := by
        rw [readAs, run]
        rfl
      obtain ⟨isKind, fits, front, -⟩ := readAs_eq_ok_iff.1 read
      exact absurd front (none payload isKind fits)

/-- A reply that was sent holds the bytes of its payload. -/
theorem decode_bytes_encode {id : UInt32} (small : (reply.encode id).bytes.length < 4294967296) :
    Response.decode (reply.encode id).bytes =
      .ok { id, packet := .extendedReply (.raw reply.written) } := by
  let sent : Response := .extendedReply (.raw reply.written)
  have isSent : reply.encode id = sent.encode id := rfl
  rw [isSent] at small ⊢
  exact Response.decode_bytes_encode (Nat.lt_add_left 4 small)

/-- In its own layout a payload is what is read of it, if its reply can be counted. -/
theorem readAs_kind {id : UInt32} (small : (payload.reply.encode id).bytes.length < 4294967296) :
    payload.reply.readAs payload.kind = .ok payload := by
  have fits : payload.Fits := Payload.layout_bounded payload (length_written_lt small)
  exact readAs_eq_ok_iff.2 ⟨rfl, fits, List.prefix_rfl, fun _ => rfl⟩

/-- What is read of a reply is the same after it was sent as before, whatever type its payload is
of and whatever layout it is read in, and in the layout of the payload it is the payload. What is
read always stands in front of the bytes of the payload, and when nothing is read then nothing that
could be stands there and the bytes have run out. -/
theorem readAs_of_decode :
    (∀ (π : Type) (reply : OpenReply π) (id : UInt32),
      (reply.encode id).bytes.length < 4294967296 →
        ∃ back, Response.decode (reply.encode id).bytes =
            .ok { id, packet := .extendedReply back } ∧
          ∀ kind, back.readAs kind = reply.readAs kind) ∧
    (∀ (payload : Payload) (id : UInt32),
      (Response.encode id (.extendedReply payload)).bytes.length < 4294967296 →
        ∃ back, Response.decode (Response.encode id (.extendedReply payload)).bytes =
            .ok { id, packet := .extendedReply back } ∧
          (∀ kind, back.readAs kind = payload.readAs kind) ∧
          payload.readAs payload.kind = .ok payload) ∧
    ∀ (π : Type) (reply : OpenReply π) (kind : PayloadKind),
      (∀ payload, reply.readAs kind = .ok payload →
        payload.kind = kind ∧ payload.bytes <+: reply.written) ∧
      ∀ fault, reply.readAs kind = .error fault ↔
        fault = .short ∧ ∀ payload : Payload, payload.kind = kind → payload.Fits →
          ¬ payload.bytes <+: reply.written := by
  refine ⟨?_, ?_, fun π reply kind => ⟨?_, fun fault => readAs_eq_error_iff⟩⟩
  · intro π reply id small
    exact ⟨_, decode_bytes_encode small, fun kind => rfl⟩
  · intro payload id small
    rw [← encode_reply] at small ⊢
    exact ⟨_, decode_bytes_encode small, fun kind => rfl,
      (readAs_reply payload.kind payload).symm.trans (readAs_kind small)⟩
  · intro payload read
    obtain ⟨isKind, -, front, -⟩ := readAs_eq_ok_iff.1 read
    exact ⟨isKind, front⟩

/-- A word of a type that is not known here, read as bytes and as a string that is not there; the
figures of a file system, all different; and two paths, of which a reader of one takes the first. -/
theorem readAs_of_decode_sample :
    (∃ back, Response.decode (OpenReply.encode 5 ⟨Bytes.ofWord32, 7⟩).bytes =
        .ok { id := 5, packet := .extendedReply back } ∧
      back.readAs .raw = .ok (.raw [0, 0, 0, 7]) ∧ back.readAs .fsync = .error .short) ∧
    (∃ back, Response.decode (Response.encode 6
          (.extendedReply (.statvfsReply ⟨1, 2, 3, 4, 5, 6, 7, 8, 9, 10, 11⟩))).bytes =
        .ok { id := 6, packet := .extendedReply back } ∧
      back.readAs .statvfsReply = .ok (.statvfsReply ⟨1, 2, 3, 4, 5, 6, 7, 8, 9, 10, 11⟩)) ∧
    (Payload.statvfs [1]).bytes <+: (Payload.posixRename [1] [2]).bytes := by
  obtain ⟨open', closed, parts⟩ := readAs_of_decode
  obtain ⟨back, read, same⟩ := open' UInt32 ⟨Bytes.ofWord32, 7⟩ 5 (by decide)
  obtain ⟨back', read', same', own⟩ := closed
    (.statvfsReply ⟨1, 2, 3, 4, 5, 6, 7, 8, 9, 10, 11⟩) 6 (by decide)
  have first := (parts Payload (Payload.posixRename [1] [2]).reply .statvfs).1 (.statvfs [1]) rfl
  exact ⟨⟨back, read, same .raw, same .fsync⟩, ⟨back', read', (same' _).trans own⟩, first.2⟩

end SftpWire.OpenReply
