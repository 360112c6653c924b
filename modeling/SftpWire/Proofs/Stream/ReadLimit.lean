import SftpWire.Proofs.Packet.Response
import SftpWire.Proofs.Stream.Framing

/-!
How much data a response can give past a reader. A server gives no more data than was asked for and
no more than its limit, and the limits are checked so that the nine bytes before the data of a
response fit as well. `readResponse_data` goes the whole way: from limits that are valid to the
client that reads the data and goes on behind it.
-/

namespace SftpWire

namespace Limits

variable {limits : Limits}

/-- Valid limits permit some data, and leave room for what stands before it in a response. -/
theorem check_eq_ok_iff :
    limits.check = .ok limits ↔
      0 < limits.maxDataLength.toNat ∧
        limits.maxDataLength.toNat + dataOverhead ≤ limits.maxPacketLength.toNat := by
  have noPacket : limits.maxPacketLength = 0 ↔ limits.maxPacketLength.toNat = 0 :=
    UInt32.toNat_inj.symm
  have noData : limits.maxDataLength = 0 ↔ limits.maxDataLength.toNat = 0 :=
    UInt32.toNat_inj.symm
  have overhead : dataOverhead = 9 := rfl
  by_cases packet : limits.maxPacketLength = 0
  · have refused : limits.check = .error .zeroPacketLength := by simp [check, packet]
    have none := noPacket.1 packet
    rw [refused]
    exact iff_of_false nofun (by omega)
  · by_cases data : limits.maxDataLength = 0
    · have refused : limits.check = .error .zeroDataLength := by simp [check, packet, data]
      have none := noData.1 data
      rw [refused]
      exact iff_of_false nofun (by omega)
    · have some : limits.maxDataLength.toNat ≠ 0 := mt noData.2 data
      rw [check, if_neg packet, if_neg data]
      -- The subtraction is cut off at zero, but then it leaves no room for any data.
      by_cases beyond :
          limits.maxPacketLength.toNat - dataOverhead < limits.maxDataLength.toNat
      · rw [if_pos beyond]
        exact iff_of_false nofun (by omega)
      · rw [if_neg beyond]
        exact iff_of_true rfl (by omega)

theorem toNat_clamp (limits : Limits) (length : UInt32) :
    (limits.clamp length).toNat = min length.toNat limits.maxDataLength.toNat := by
  show (if length ≤ limits.maxDataLength then length else limits.maxDataLength).toNat = _
  split
  · next asked =>
    have least := UInt32.le_iff_toNat_le.1 asked
    omega
  · next beyond =>
    have most := UInt32.lt_iff_toNat_lt.1 (UInt32.not_le.1 beyond)
    omega

/-- However much is asked for, what is given fits into a packet with what stands before it. -/
theorem clamp_add_overhead_le (valid : limits.check = .ok limits) (length : UInt32) :
    (limits.clamp length).toNat + dataOverhead ≤ limits.maxPacketLength.toNat := by
  have room := (check_eq_ok_iff.1 valid).2
  have clamped := limits.toNat_clamp length
  omega

end Limits

/-- Nine bytes stand before the data of a response. -/
theorem Response.length_content_data (id : UInt32) (data : Bytes) :
    (Message.content kind layout { id, packet := .data data }).length =
      9 + min data.length 4294967295 := by
  have head : (Frame.head Kind.data.code id).length = 5 := Frame.length_head ..
  have body : (Response.body (.data data)).length = 4 + min data.length 4294967295 := by
    simp only [Response.body, fields, bulk, List.length_append, List.length_take,
      Bytes.toNat_lengthWord, Bytes.length_ofWord32]
    omega
  show (Frame.head Kind.data.code id ++ Response.body (.data data)).length = _
  rw [List.length_append, head, body]
  omega

namespace Source

variable {limits : Limits} {id : UInt32} {data : Bytes}

/-- A response whose data leaves room for the nine bytes before it is read as itself, and nothing
behind it is. -/
theorem readResponse_data_append
    (room : data.length + Limits.dataOverhead ≤ limits.maxPacketLength.toNat) (rest : Bytes) :
    readResponse limits ((Response.encode id (.data data)).bytes ++ rest) =
      (.ok { id, packet := .data data }, rest) := by
  have overhead : Limits.dataOverhead = 9 := rfl
  have bound := limits.maxPacketLength.toNat_lt
  have within : (Response.encode id (.data data)).bytes.length ≤
      4 + limits.maxPacketLength.toNat := by
    rw [Response.bytes_encode, List.length_append, Bytes.length_ofWord32,
      Response.length_content_data]
    omega
  have admits := Response.admits_encode within
  have back := Response.decode_bytes_encode (Nat.lt_of_le_of_lt within (by omega))
  rw [readResponse_append admits, back]
  rfl

/-- Under valid limits, whatever length a peer asks for, data of no more than the clamped length
makes a response whose length word is nine more than that of the data and within the limit, and
that is read back by the same limits in front of anything else. -/
theorem readResponse_data (limits : Limits) (valid : limits.check = .ok limits)
    (length : UInt32) (data : Bytes) (within : data.length ≤ (limits.clamp length).toNat)
    (id : UInt32) (rest : Bytes) :
    Bytes.value ((Response.encode id (.data data)).bytes.take 4) = 9 + data.length ∧
      9 + data.length ≤ limits.maxPacketLength.toNat ∧
      readResponse limits ((Response.encode id (.data data)).bytes ++ rest) =
        (.ok { id, packet := .data data }, rest) := by
  have overhead : Limits.dataOverhead = 9 := rfl
  have bound := limits.maxPacketLength.toNat_lt
  have clamped := Limits.clamp_add_overhead_le valid length
  have room : data.length + Limits.dataOverhead ≤ limits.maxPacketLength.toNat := by omega
  have content : (Message.content Response.kind Response.layout
      { id, packet := .data data }).length = 9 + data.length := by
    rw [Response.length_content_data]
    omega
  refine ⟨?_, by omega, readResponse_data_append room rest⟩
  rw [Response.bytes_encode, Bytes.value_take_ofWord32_append, content,
    Bytes.lengthWord_toNat (by omega)]

/-- Limits that leave no byte to spare, and a peer that asks for all it can. -/
theorem readResponse_data_tight :
    Limits.check { maxPacketLength := 10, maxDataLength := 1 } =
        .ok { maxPacketLength := 10, maxDataLength := 1 } ∧
      [0x61].length ≤
        (Limits.clamp { maxPacketLength := 10, maxDataLength := 1 } 4294967295).toNat ∧
      Bytes.value ((Response.encode 7 (.data [0x61])).bytes.take 4) = 10 ∧
      readResponse { maxPacketLength := 10, maxDataLength := 1 }
          ((Response.encode 7 (.data [0x61])).bytes ++ [0, 0, 0]) =
        (.ok { id := 7, packet := .data [0x61] }, [0, 0, 0]) := by
  have read := readResponse_data { maxPacketLength := 10, maxDataLength := 1 } rfl 4294967295
    [0x61] (by decide) 7 [0, 0, 0]
  exact ⟨rfl, by decide, read.1, read.2.2⟩

end Source

end SftpWire
