import SftpWire.Proofs.Packet.Request
import SftpWire.Proofs.Packet.Response

/-!
Packets there and back, for both sides at once. A packet that is sent is read as an equal packet
with its id (`decode_encode`), and a packet that is read, whoever made the bytes, is sent as the
bytes it was read from up to what stood behind its fields (`encode_decode`).
-/

namespace SftpWire

/-- Decoding undoes encoding, for every packet whose frame can be counted. -/
theorem decode_encode :
    (∀ (registry : Registry) (request : Request) (id : UInt32),
      request.Suits registry → (request.encode id).bytes.length < 4294967296 →
        ∃ back, Request.decode registry (request.encode id).bytes =
            .ok { id := if request.kind = .init then 0 else id, packet := back } ∧
          (back == request) = true) ∧
    ∀ (response : Response) (id : UInt32), (response.encode id).bytes.length < 4294967296 →
      ∃ back, Response.decode (response.encode id).bytes =
          .ok { id := if response.kind = .version then 0 else id, packet := back } ∧
        (back == response) = true := by
  constructor
  · intro registry request id suits small
    refine ⟨request.canonical registry, ?_, request.canonical_beq registry⟩
    exact Request.decode_bytes_encode suits (by omega)
  · intro response id small
    exact ⟨response.canonical, Response.decode_bytes_encode (by omega), response.canonical_beq⟩

/-- An extended request of a name that is not registered, and a status whose code is given by a
value that has a name. -/
theorem decode_encode_sample :
    (∃ back, Request.decode .initial (Request.encode 7 (.extended [0xFF] (.fsync [1]))).bytes =
        .ok { id := 7, packet := back } ∧ (back == .extended [0xFF] (.fsync [1])) = true) ∧
    ∃ back, Response.decode (Response.encode 9 (.status (.say (.other 4) []))).bytes =
        .ok { id := 9, packet := back } ∧ (back == .status (.say (.other 4) [])) = true :=
  ⟨decode_encode.1 .initial (.extended [0xFF] (.fsync [1])) 7 (.inl (by decide)) (by decide),
    decode_encode.2 (.status (.say (.other 4) [])) 9 (by decide)⟩

/-- Encoding undoes decoding, for all bytes that are a packet: what is sent again reads as the same
packet and is what was read without the bytes that the packet did not need. -/
theorem encode_decode :
    (∀ (registry : Registry) (bytes : Bytes) (message : Message Request),
      Request.decode registry bytes = .ok message → ∀ again : Bytes,
        again = (message.packet.encode message.id).bytes →
          again.drop 4 <+: bytes.drop 4 ∧ Request.decode registry again = .ok message ∧
          (again = bytes ↔ Message.leftover (Request.reader? registry) bytes = []) ∧
          (message.packet.kind = .init → again = bytes) ∧
          ∀ name payload, message.packet = .extended name payload →
            registry.resolve name = .raw → again = bytes) ∧
    ∀ (bytes : Bytes) (message : Message Response),
      Response.decode bytes = .ok message → ∀ again : Bytes,
        again = (message.packet.encode message.id).bytes →
          again.drop 4 <+: bytes.drop 4 ∧ Response.decode again = .ok message ∧
          (again = bytes ↔ Message.leftover Response.reader? bytes = []) ∧
          (message.packet.kind = .version ∨ message.packet.kind = .extendedReply →
            again = bytes) := by
  constructor
  · intro registry bytes message read again isAgain
    obtain ⟨front, back, same, last⟩ := Request.bytes_encode_of_decode read isAgain.symm
    refine ⟨front, back, same, ?_, ?_⟩
    · intro opens
      exact last (Request.toEnd_of_kind opens)
    · intro name payload isExtended isRaw
      have kept := Request.kind_payload_of_decode read isExtended
      apply last
      rw [isExtended]
      exact kept.trans isRaw
  · intro bytes message read again isAgain
    obtain ⟨front, back, same, last⟩ := Response.bytes_encode_of_decode read isAgain.symm
    exact ⟨front, back, same, fun kind => last (Response.toEnd_of_kind kind)⟩

/-- A request to close with a byte too many, an extended request that means nothing here, and a
reply. -/
theorem encode_decode_sample :
    ((Request.encode 1 (.onHandle .close [])).bytes.drop 4 <+: [4, 0, 0, 0, 1, 0, 0, 0, 0, 9] ∧
      (Request.encode 1 (.onHandle .close [])).bytes ≠
        [0, 0, 0, 10, 4, 0, 0, 0, 1, 0, 0, 0, 0, 9]) ∧
    (Request.encode 2 (.extended [0xFF] (.raw [3]))).bytes =
      [0, 0, 0, 11, 200, 0, 0, 0, 2, 0, 0, 0, 1, 0xFF, 3] ∧
    (Response.encode 5 (.extendedReply (.raw [6]))).bytes = [0, 0, 0, 6, 201, 0, 0, 0, 5, 6] := by
  have close := encode_decode.1 .initial [0, 0, 0, 10, 4, 0, 0, 0, 1, 0, 0, 0, 0, 9]
    { id := 1, packet := .onHandle .close [] } rfl _ rfl
  have unknown := encode_decode.1 .initial [0, 0, 0, 11, 200, 0, 0, 0, 2, 0, 0, 0, 1, 0xFF, 3]
    { id := 2, packet := .extended [0xFF] (.raw [3]) } rfl _ rfl
  have reply := encode_decode.2 [0, 0, 0, 6, 201, 0, 0, 0, 5, 6]
    { id := 5, packet := .extendedReply (.raw [6]) } rfl _ rfl
  refine ⟨⟨close.1, ?_⟩, unknown.2.2.2.2 _ _ rfl (by decide), reply.2.2.2 (.inr rfl)⟩
  intro same
  exact absurd (close.2.2.1.1 same) (by decide)

end SftpWire
