import SftpWire.Proofs.Packet.History
import SftpWire.Proofs.Packet.Response

/-!
Frames whose bodies are left for later. Bytes are a frame exactly when they are what the frame is
sent as (`Frame.decode_eq_ok_iff_encode`), so a frame that has not been read can be passed on
without loss, whatever its code and its body. Main statement: `decode_deferred`, by which it does
not matter when the body is read either.
-/

namespace SftpWire

namespace Frame

/-- What stands behind the length. -/
def content (frame : Frame) : Bytes :=
  head frame.code frame.id ++ frame.body

/-- A frame that can be given back. It has an id only if its code lets it carry one, and its length
can be counted. -/
structure Sendable (frame : Frame) : Prop where
  id_eq_zero : frame.code.carriesId = false → frame.id = 0
  length_lt : frame.content.length < 4294967296

/-- A frame that serves as well as the bytes that it was read from: it is sent as they are, and it
is read as they are by either side, with whatever payloads are registered by then. -/
structure Replaces (frame : Frame) (bytes : Bytes) : Prop where
  sent_eq : frame.encode.header ++ frame.encode.payload.getD [] = bytes
  request_eq : ∀ registry, Request.ofFrame registry frame = Request.decode registry bytes
  openRequest_eq : ∀ (π : Type) (box : Payload → π) (registry : OpenRegistry π),
    registry.ofFrame box frame = registry.decode box bytes
  response_eq : Response.ofFrame frame = Response.decode bytes

variable {bytes : Bytes} {frame : Frame}

theorem ofContent_content (noId : frame.code.carriesId = false → frame.id = 0) :
    ofContent frame.content = .ok frame :=
  ofContent_eq_ok_iff.2 ⟨rfl, noId⟩

/-- A frame is sent as its content, although the head and the body go separate ways. -/
theorem bytes_encode (small : frame.content.length < 4294967296) :
    frame.encode.bytes = Bytes.ofString frame.content :=
  bytes_assemble_of_lt small

/-- Bytes that are read as a frame are those that the frame is sent as. -/
theorem decode_eq_ok_iff_encode :
    decode bytes = .ok frame ↔ frame.Sendable ∧ bytes = frame.encode.bytes := by
  rw [decode_eq_ok_iff]
  constructor
  · rintro ⟨content, rfl, small, isFrame⟩
    -- Without an id the frame has the id zero, so the content is that of the frame.
    obtain ⟨rfl, noId⟩ := ofContent_eq_ok_iff.1 isFrame
    exact ⟨⟨noId, small⟩, (bytes_encode small).symm⟩
  · rintro ⟨sendable, rfl⟩
    exact ⟨frame.content, bytes_encode sendable.length_lt, sendable.length_lt,
      ofContent_content sendable.id_eq_zero⟩

theorem replaces_of_decode (isFrame : decode bytes = .ok frame) : frame.Replaces bytes where
  sent_eq := (decode_eq_ok_iff_encode.1 isFrame).2.symm
  request_eq _ := (Request.decode_of_frame isFrame).symm
  openRequest_eq _ _ _ := (OpenRegistry.decode_of_frame isFrame).symm
  response_eq := (Response.decode_of_frame isFrame).symm

end Frame

/-- Reading the head of a packet now and its body later is reading it at once, and what is kept
meanwhile is sent as the bytes that came. Bytes that are no frame are no packet, for the same cause.
A frame comes back when it is sent, unless its id is out of place or it is too long. -/
theorem decode_deferred :
    (∀ (bytes : Bytes) (frame : Frame), Frame.decode bytes = .ok frame → frame.Replaces bytes) ∧
    (∀ (bytes : Bytes) (fault : Fault), Frame.decode bytes = .error fault →
      (∀ registry, Request.decode registry bytes = .error fault) ∧
      (∀ (π : Type) (box : Payload → π) (registry : OpenRegistry π),
        registry.decode box bytes = .error fault) ∧
      Response.decode bytes = .error fault) ∧
    ∀ frame : Frame, Frame.decode frame.encode.bytes = .ok frame ↔ frame.Sendable := by
  refine ⟨fun _ _ => Frame.replaces_of_decode, ?_, ?_⟩
  · intro bytes fault failed
    refine ⟨fun registry => ?_, fun π box registry => ?_, ?_⟩
    · rw [Request.decode, failed]
      rfl
    · rw [OpenRegistry.decode, failed]
      rfl
    · rw [Response.decode, failed]
      rfl
  · intro frame
    rw [Frame.decode_eq_ok_iff_encode]
    exact and_iff_left rfl

/-- A packet of a kind that neither side reads, a packet that says it is longer than it is, and a
frame without a body whose code has no meaning. -/
theorem decode_deferred_sample :
    (Frame.encode { code := 21, id := 7, body := [9] }).header ++ [9] =
        [0, 0, 0, 6, 21, 0, 0, 0, 7, 9] ∧
      Response.decode [0, 0, 0, 6, 21, 0, 0, 0, 7, 9] = .error (.unexpectedType 21) ∧
    Request.decode .initial [0, 0, 0, 9, 21] = .error .short ∧
    Frame.decode [0, 0, 0, 5, 99, 0, 0, 0, 7] = .ok { code := 99, id := 7, body := [] } := by
  have reserved := decode_deferred.1 [0, 0, 0, 6, 21, 0, 0, 0, 7, 9]
    { code := 21, id := 7, body := [9] } rfl
  have short := decode_deferred.2.1 [0, 0, 0, 9, 21] .short rfl
  have unknown := (decode_deferred.2.2 { code := 99, id := 7, body := [] }).2
    ⟨by decide, by decide⟩
  exact ⟨reserved.sent_eq, reserved.response_eq.symm.trans rfl, short.1 .initial, unknown⟩

end SftpWire
