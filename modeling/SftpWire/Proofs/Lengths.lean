import SftpWire.Proofs.Packet.Size
import SftpWire.Proofs.Stream.Framing

/-!
The lengths of a packet that is ready to be sent. Sizes are computed apart from what they are the
sizes of, and the length in front counts bytes that are not in the header, so there are several
numbers that have to agree: the size of the fields, the length of the header, the length in front,
and how much comes to stand on a stream. `encode_lengths` says that they do, for all packets of both
sides.
-/

namespace SftpWire

/-- What is ready to be sent has the lengths that it says it has. The header ends with fields of
the given size, behind a length, a code and as many bytes of an id; the length in front counts what
follows it; and header and payload are all there is. -/
structure Encoded.Measured (encoded : Encoded) (fields : Bytes) (idSize size : Nat) : Prop where
  fields_suffix : fields <:+ encoded.header
  length_fields : fields.length = size
  length_header : encoded.header.length = 4 + 1 + idSize + size
  value_length :
    Bytes.value (encoded.header.take 4) =
      encoded.header.length - 4 + (encoded.payload.getD []).length
  bytes_eq : encoded.bytes = encoded.header ++ encoded.payload.getD []

namespace Frame

variable {code : TypeCode} {id : UInt32} {fields bulk : Bytes}

theorem length_header :
    (assemble code id fields bulk).header.length =
      4 + 1 + (if code.carriesId then 4 else 0) + fields.length := by
  rw [header_assemble, List.length_append, Bytes.length_ofWord32, List.length_append, length_head]
  cases code.carriesId <;> simp only [if_true, if_false, Bool.false_eq_true] <;> omega

/-- The length in front leaves out its own four bytes and takes in the payload. -/
theorem value_take_header (small : (assemble code id fields bulk).bytes.length < 4294967296) :
    Bytes.value ((assemble code id fields bulk).header.take 4) =
      (assemble code id fields bulk).header.length - 4 +
        ((assemble code id fields bulk).payload.getD []).length := by
  rw [bytes_assemble, List.length_append, Bytes.length_ofWord32] at small
  rw [payload_assemble, header_assemble, Bytes.value_take_ofWord32_append,
    Bytes.lengthWord_toNat (by omega)]
  simp only [List.length_append, Bytes.length_ofWord32]
  omega

theorem measured_assemble {size : Nat} (exact : fields.length = size)
    (small : (assemble code id fields bulk).bytes.length < 4294967296) :
    (assemble code id fields bulk).Measured fields (if code.carriesId then 4 else 0) size where
  fields_suffix := by
    rw [header_assemble, ← List.append_assoc]
    exact List.suffix_append ..
  length_fields := exact
  length_header := exact ▸ length_header
  value_length := value_take_header small
  bytes_eq := rfl

/-- There is no empty payload. -/
theorem payload_eq_some_iff {data : Bytes} :
    (assemble code id fields bulk).payload = some data ↔ data ≠ [] ∧ bulk = data := by
  cases bulk with
  | nil => simp [assemble, eq_comm]
  | cons first rest =>
    simp only [assemble, List.isEmpty_cons, Bool.false_eq_true, if_false, Option.some.injEq]
    constructor
    · rintro rfl
      exact ⟨nofun, rfl⟩
    · exact And.right

/-- A body is shorter than the frame that it is in. -/
theorem length_body_le :
    (fields ++ bulk).length ≤ (assemble code id fields bulk).bytes.length := by
  rw [bytes_assemble, ← List.append_assoc]
  exact (List.suffix_append ..).length_le

end Frame

/-- Whatever is in a packet, its size is what its fields take, header and payload have the lengths
that follow from it, and a stream takes the one behind the other. Only a request to write and a
response that gives data have a payload, which is the data if there is any. -/
theorem encode_lengths :
    (∀ (request : Request) (id : UInt32), (request.encode id).bytes.length < 4294967296 →
      (request.encode id).Measured request.fields (if request.kind = .init then 0 else 4)
        request.size ∧
      (∀ data, (request.encode id).payload = some data ↔
        data ≠ [] ∧ ∃ handle offset, request = .write handle offset data) ∧
      ∀ sink : Sink, sink.writeRequest id request = sink.write (request.encode id).bytes ∧
        (sink.written.length + (request.encode id).bytes.length ≤ sink.capacity →
          (sink.writeRequest id request).2.written =
            sink.written ++ (request.encode id).bytes)) ∧
    ∀ (response : Response) (id : UInt32), (response.encode id).bytes.length < 4294967296 →
      (response.encode id).Measured response.fields (if response.kind = .version then 0 else 4)
        response.size ∧
      (∀ data, (response.encode id).payload = some data ↔ data ≠ [] ∧ response = .data data) ∧
      ∀ sink : Sink, sink.writeResponse id response = sink.write (response.encode id).bytes ∧
        (sink.written.length + (response.encode id).bytes.length ≤ sink.capacity →
          (sink.writeResponse id response).2.written =
            sink.written ++ (response.encode id).bytes) := by
  constructor
  · intro request id small
    have body : request.body.length < 4294967296 := Nat.lt_of_le_of_lt Frame.length_body_le small
    refine ⟨?_, ?_, fun sink => ⟨Sink.writeFrame_eq _ sink, fun room => ?_⟩⟩
    · rw [← request.ite_carriesId]
      exact Frame.measured_assemble (Request.length_fields body) small
    · intro data
      rw [Request.encode, Frame.payload_eq_some_iff]
      exact and_congr_right (Request.bulk_eq_iff body)
    · rw [Sink.writeRequest, Sink.writeFrame_of_room room]
  · intro response id small
    have body : response.body.length < 4294967296 := Nat.lt_of_le_of_lt Frame.length_body_le small
    refine ⟨?_, ?_, fun sink => ⟨Sink.writeFrame_eq _ sink, fun room => ?_⟩⟩
    · rw [← response.ite_carriesId]
      exact Frame.measured_assemble (Response.length_fields body) small
    · intro data
      rw [Response.encode, Frame.payload_eq_some_iff]
      exact and_congr_right (Response.bulk_eq_iff body)
    · rw [Sink.writeResponse, Sink.writeFrame_of_room room]

/-- A request to write two bytes, on a stream with room for it, and a response that opens a session
and so carries no id. -/
theorem encode_lengths_sample :
    (Request.encode 7 (.write [1] 0 [2, 3])).Measured
        [0, 0, 0, 1, 1, 0, 0, 0, 0, 0, 0, 0, 0, 0, 0, 0, 2] 4 17 ∧
      (Request.encode 7 (.write [1] 0 [2, 3])).payload = some [2, 3] ∧
      (Sink.writeRequest 7 (.write [1] 0 [2, 3]) { capacity := 30 }).2.written =
        (Request.encode 7 (.write [1] 0 [2, 3])).bytes ∧
    (Response.encode 9 (.version 3 [⟨[1], []⟩])).Measured [0, 0, 0, 3, 0, 0, 0, 1, 1, 0, 0, 0, 0]
      0 13 := by
  obtain ⟨measured, payload, sent⟩ := encode_lengths.1 (.write [1] 0 [2, 3]) 7 (by decide)
  have version := encode_lengths.2 (.version 3 [⟨[1], []⟩]) 9 (by decide)
  exact ⟨measured, (payload _).2 ⟨nofun, _, _, rfl⟩, (sent { capacity := 30 }).2 (by decide),
    version.1⟩

end SftpWire
