import SftpWire.Proofs.Packet.Request
import SftpWire.Proofs.Packet.Response

/-!
Packets with bytes to spare. When bytes are put behind a frame and its length is put right for them,
the reader of the body meets the same packet in front and leaves more behind, so a packet that says
where it ends is read as before. One that goes on to the end of its frame takes the new bytes in and
cannot be the same (`Message.Dispatches.decode_lengthen_iff`). Main statement: `decode_lengthen`.
-/

namespace SftpWire

namespace Frame

/-- A frame with more bytes behind its body, under a length that counts them as well. -/
def lengthen (more frame : Bytes) : Bytes :=
  setLength (UInt32.ofNat (Bytes.value (frame.take 4) + more.length)) (frame ++ more)

theorem lengthen_ofString {content more : Bytes}
    (small : content.length + more.length < 4294967296) :
    lengthen more (Bytes.ofString content) = Bytes.ofString (content ++ more) := by
  have short : content.length < 4294967296 := Nat.lt_of_add_right_lt small
  have counted : (content ++ more).length < 4294967296 := by
    rwa [List.length_append]
  have declared : Bytes.value ((Bytes.ofString content).take 4) = content.length := by
    rw [Bytes.ofString_eq short, Bytes.value_take_ofWord32_append,
      UInt32.toNat_ofNat_of_lt' short]
  have behind : (Bytes.ofString content ++ more).drop 4 = content ++ more := by
    rw [List.drop_append_of_le_length (by rw [Bytes.length_ofString short]; omega),
      Bytes.drop_ofString short]
  rw [lengthen, setLength, declared, behind, Bytes.ofString_eq counted, List.length_append]

end Frame

namespace Message.Dispatches

variable {α : Type} {reader? : Kind → Option (Reader α)} {kind : α → Kind} {layout : Layout α}
  {unexpected : TypeCode → Fault} {message : Message α} {bytes more : Bytes}

/-- A packet is still the same with more bytes in its frame exactly when it leaves them behind, or
when there are none. -/
theorem decode_lengthen_iff (dispatches : Dispatches reader? kind layout)
    (read : (Frame.decode bytes).bind (ofFrame reader? unexpected) = .ok message)
    (small : bytes.length + more.length < 4 + 4294967296) :
    (Frame.decode (Frame.lengthen more bytes)).bind (ofFrame reader? unexpected) = .ok message ↔
      (layout.ToEnd message.packet → more = []) := by
  obtain ⟨rest, rfl, counted, fits, last, noId⟩ := dispatches.decode_eq_ok_iff.1 read
  rw [Bytes.length_ofString counted] at small
  have total : (content kind layout message ++ rest).length + more.length < 4294967296 := by omega
  have total' : (content kind layout message ++ (rest ++ more)).length < 4294967296 := by
    rwa [← List.append_assoc, List.length_append]
  rw [Frame.lengthen_ofString total, List.append_assoc, dispatches.decode_eq_ok_iff]
  constructor
  · rintro ⟨rest', same, counted', -, last', -⟩ toEnd
    have inner := congrArg (List.drop 4) same
    rw [Bytes.drop_ofString total', Bytes.drop_ofString counted'] at inner
    have left : rest ++ more = rest' := List.append_cancel_left inner
    rw [last' toEnd] at left
    exact (List.append_eq_nil_iff.1 left).2
  · intro nothing
    refine ⟨rest ++ more, rfl, total', fits, fun toEnd => ?_, noId⟩
    rw [last toEnd, nothing toEnd, List.append_nil]

end Message.Dispatches

/-- Requests that say where they end. The others are those that announce extensions, and those
whose payload is bytes. -/
def Request.Ends (registry : Registry) : Request → Prop
  | .init .. => False
  | .extended name _ => registry.resolve name ≠ .raw
  | _ => True

/-- Responses that say where they end. The others are those that announce extensions, and replies to
extended requests. -/
def Response.Ends : Response → Prop
  | .version .. | .extendedReply _ => False
  | _ => True

theorem Request.toEnd_iff_of_decode {registry : Registry} {bytes : Bytes}
    {message : Message Request} (read : decode registry bytes = .ok message) :
    message.packet.ToEnd ↔ ¬ message.packet.Ends registry := by
  cases isPacket : message.packet with
  | init version extensions => exact iff_of_true trivial not_false
  | extended name payload =>
    have kept := kind_payload_of_decode read isPacket
    simp only [ToEnd, Ends, kept, ne_eq, Classical.not_not]
  | _ => exact iff_of_false not_false (fun goesOn => goesOn trivial)

theorem Response.toEnd_iff (response : Response) : response.ToEnd ↔ ¬ response.Ends := by
  cases response with
  | version version extensions => exact iff_of_true trivial not_false
  | extendedReply payload => exact iff_of_true trivial not_false
  | _ => exact iff_of_false not_false (fun goesOn => goesOn trivial)

/-- Bytes behind a packet that says where it ends never change it: with any bytes put behind its
frame, and its length put right for them, the packet and its id are still the same. Of the other
packets this is true only when no bytes are put there. -/
theorem decode_lengthen :
    (∀ (registry : Registry) (bytes more : Bytes) (message : Message Request),
      Request.decode registry bytes = .ok message →
        bytes.length + more.length < 4 + 4294967296 →
          (Request.decode registry (Frame.lengthen more bytes) = .ok message ↔
            message.packet.Ends registry ∨ more = [])) ∧
    ∀ (bytes more : Bytes) (message : Message Response),
      Response.decode bytes = .ok message →
        bytes.length + more.length < 4 + 4294967296 →
          (Response.decode (Frame.lengthen more bytes) = .ok message ↔
            message.packet.Ends ∨ more = []) := by
  constructor
  · intro registry bytes more message read small
    have same := (Request.dispatches registry).decode_lengthen_iff read small
    refine same.trans ?_
    show (message.packet.ToEnd → more = []) ↔ _
    rw [Request.toEnd_iff_of_decode read, Classical.or_iff_not_imp_left]
  · intro bytes more message read small
    have same := Response.dispatches.decode_lengthen_iff read small
    refine same.trans ?_
    show (message.packet.ToEnd → more = []) ↔ _
    rw [Response.toEnd_iff, Classical.or_iff_not_imp_left]

/-- A request to close and an empty listing, each with two bytes to spare, and a request of no
registered name, which takes them for its payload. -/
theorem decode_lengthen_sample :
    Request.decode .initial
          (Frame.lengthen [8, 9] (Request.encode 1 (.onHandle .close [7])).bytes) =
        .ok { id := 1, packet := .onHandle .close [7] } ∧
      Response.decode [0, 0, 0, 11, 104, 0, 0, 0, 5, 0, 0, 0, 0, 8, 9] =
        .ok { id := 5, packet := .name [] } ∧
      Request.decode .initial
          (Frame.lengthen [8, 9] (Request.encode 1 (.extended [0xFF] (.raw [7]))).bytes) ≠
        .ok { id := 1, packet := .extended [0xFF] (.raw [7]) } := by
  have close := decode_lengthen.1 .initial (Request.encode 1 (.onHandle .close [7])).bytes [8, 9]
    { id := 1, packet := .onHandle .close [7] } rfl (by decide)
  have listing := decode_lengthen.2 (Response.encode 5 (.name [])).bytes [8, 9]
    { id := 5, packet := .name [] } rfl (by decide)
  have unknown := decode_lengthen.1 .initial
    (Request.encode 1 (.extended [0xFF] (.raw [7]))).bytes [8, 9]
    { id := 1, packet := .extended [0xFF] (.raw [7]) } rfl (by decide)
  refine ⟨close.2 (.inl trivial), listing.2 (.inl trivial), mt unknown.1 ?_⟩
  rintro (ends | none)
  · exact ends (by decide)
  · cases none

end SftpWire
