import SftpWire.Packet.Message
import SftpWire.Proofs.Packet.Frame

/-!
Packets of either side as bytes, for any readers that go by the kind of the packet. Main statement:
`Dispatches.decode_eq_ok_iff`, which says of all byte strings which of them are a given packet:
those that are one frame whose body begins with it. What stands behind the packet in the body is
`Message.leftover`.
-/

namespace SftpWire.Message

variable {α : Type}

/-- Readers by kind read one layout: that of a kind gives the packets of the kind, and there is one
for the kind of every packet. -/
structure Dispatches (reader? : Kind → Option (Reader α)) (kind : α → Kind) (layout : Layout α) :
    Prop where
  run_eq_done : ∀ {k : Kind} {reader : Reader α}, reader? k = some reader →
    ∀ {bytes : Bytes} {packet : α} {rest : Bytes},
      reader.run bytes = .done packet rest ↔ kind packet = k ∧ layout.Splits bytes packet rest
  isSome : ∀ packet : α, (reader? (kind packet)).isSome

/-- What the frame of a packet holds behind its length. -/
def content (kind : α → Kind) (layout : Layout α) (message : Message α) : Bytes :=
  Frame.head (kind message.packet).code message.id ++ layout.write message.packet

/-- The head of a packet is as long as its code says. -/
theorem length_content (kind : α → Kind) (layout : Layout α) (message : Message α) :
    (content kind layout message).length =
      (if TypeCode.carriesId (kind message.packet).code then 5 else 1) +
        (layout.write message.packet).length := by
  rw [content, List.length_append, Frame.length_head]

/-- The bytes of a frame that the reader of its packet leaves. -/
def leftover (reader? : Kind → Option (Reader α)) (bytes : Bytes) : Bytes :=
  match Frame.decode bytes with
  | .error _ => []
  | .ok frame =>
    match (Kind.ofCode? frame.code).bind reader? with
    | none => frame.body
    | some reader => (reader.run frame.body).rest

namespace Dispatches

variable {reader? : Kind → Option (Reader α)} {kind : α → Kind} {layout : Layout α}
  {unexpected : TypeCode → Fault} {message : Message α}

/-- The reader of a frame that has the code of a packet. -/
theorem exists_reader (dispatches : Dispatches reader? kind layout) {code : TypeCode} {packet : α}
    (same : code = (kind packet).code) :
    ∃ reader, (Kind.ofCode? code).bind reader? = some reader ∧
      ∀ {bytes rest : Bytes},
        reader.run bytes = .done packet rest ↔ layout.Splits bytes packet rest := by
  obtain ⟨reader, found⟩ := Option.isSome_iff_exists.1 (dispatches.isSome packet)
  refine ⟨reader, ?_, ?_⟩
  · rw [same, Kind.ofCode?_code, Option.bind_some, found]
  · intro bytes rest
    rw [dispatches.run_eq_done found]
    exact and_iff_right rfl

theorem ofFrame_eq_ok_iff (dispatches : Dispatches reader? kind layout) {frame : Frame} :
    ofFrame reader? unexpected frame = .ok message ↔
      frame.code = (kind message.packet).code ∧ frame.id = message.id ∧
        ∃ rest, layout.Splits frame.body message.packet rest := by
  constructor
  · intro read
    rw [ofFrame] at read
    cases found : (Kind.ofCode? frame.code).bind reader? with
    | none =>
      rw [found] at read
      cases read
    | some reader =>
      obtain ⟨k, known, chosen⟩ := Option.bind_eq_some_iff.1 found
      cases run : reader.run frame.body with
      | short rest =>
        simp only [found, run] at read
        cases read
      | done packet rest =>
        simp only [found, run] at read
        cases read
        obtain ⟨isKind, splits⟩ := (dispatches.run_eq_done chosen).1 run
        exact ⟨(isKind ▸ Kind.code_of_ofCode? known).symm, rfl, rest, splits⟩
  · intro written
    rcases written with ⟨code, id, rest, splits⟩
    obtain ⟨reader, found, run⟩ := dispatches.exists_reader code
    simp only [ofFrame, found, run.2 splits, id]

/-- Bytes are a packet exactly when they are one frame, the frame holds the packet and perhaps
something behind it, and the packet is one that can be given back. -/
theorem decode_eq_ok_iff (dispatches : Dispatches reader? kind layout) {bytes : Bytes} :
    (Frame.decode bytes).bind (ofFrame reader? unexpected) = .ok message ↔
      ∃ rest, bytes = Bytes.ofString (content kind layout message ++ rest) ∧
        (content kind layout message ++ rest).length < 4294967296 ∧
        layout.Fits message.packet ∧ (layout.ToEnd message.packet → rest = []) ∧
        (TypeCode.carriesId (kind message.packet).code = false → message.id = 0) := by
  constructor
  · intro read
    cases framed : Frame.decode bytes with
    | error fault =>
      rw [framed] at read
      cases read
    | ok frame =>
      rw [framed] at read
      obtain ⟨code, id, rest, split, fits, last⟩ := dispatches.ofFrame_eq_ok_iff.1 read
      obtain ⟨inner, rfl, small, isFrame⟩ := Frame.decode_eq_ok_iff.1 framed
      obtain ⟨rfl, noId⟩ := Frame.ofContent_eq_ok_iff.1 isFrame
      rw [code, id, split, ← List.append_assoc] at small
      rw [code, id] at noId
      exact ⟨rest, by rw [code, id, split, ← List.append_assoc]; rfl, small, fits, last, noId⟩
  · intro written
    rcases written with ⟨rest, rfl, small, fits, last, noId⟩
    rw [Frame.decode_ofString small]
    let frame : Frame :=
      { code := (kind message.packet).code, id := message.id
        body := layout.write message.packet ++ rest }
    have isFrame : Frame.ofContent (content kind layout message ++ rest) = .ok frame :=
      Frame.ofContent_eq_ok_iff.2 ⟨List.append_assoc .., noId⟩
    rw [isFrame]
    exact dispatches.ofFrame_eq_ok_iff.2 ⟨rfl, rfl, rest, rfl, fits, last⟩

/-- What stands behind a packet is what its reader leaves. -/
theorem leftover_eq (dispatches : Dispatches reader? kind layout) {rest : Bytes}
    (small : (content kind layout message ++ rest).length < 4294967296)
    (fits : layout.Fits message.packet) (last : layout.ToEnd message.packet → rest = [])
    (noId : TypeCode.carriesId (kind message.packet).code = false → message.id = 0) :
    leftover reader? (Bytes.ofString (content kind layout message ++ rest)) = rest := by
  have isFrame : Frame.decode (Bytes.ofString (content kind layout message ++ rest)) =
      .ok { code := (kind message.packet).code, id := message.id
            body := layout.write message.packet ++ rest } := by
    rw [Frame.decode_ofString small]
    exact Frame.ofContent_eq_ok_iff.2 ⟨List.append_assoc .., noId⟩
  obtain ⟨reader, found, run⟩ := dispatches.exists_reader (rfl : (kind message.packet).code = _)
  simp only [leftover, isFrame, found, run.2 ⟨rfl, fits, last⟩, Outcome.rest]

variable {fields bulk : Bytes}

/-- A packet whose frame can be counted comes back when it is sent, with its id if there is room for
one. -/
theorem decode_bytes_assemble (dispatches : Dispatches reader? kind layout) {packet : α}
    {code : TypeCode} (isCode : (kind packet).code = code)
    (isBody : layout.write packet = fields ++ bulk) {id : UInt32}
    (small : (Frame.assemble code id fields bulk).bytes.length < 4 + 4294967296)
    (fits : layout.Fits packet) :
    (Frame.decode (Frame.assemble code id fields bulk).bytes).bind (ofFrame reader? unexpected) =
      .ok { id := if code.carriesId then id else 0, packet } := by
  subst isCode
  let message : Message α :=
    { id := if TypeCode.carriesId (kind packet).code then id else 0, packet }
  have sameHead : Frame.head (kind packet).code message.id = Frame.head (kind packet).code id := by
    cases carries : TypeCode.carriesId (kind packet).code <;> simp [message, Frame.head, carries]
  have isContent : content kind layout message =
      Frame.head (kind packet).code id ++ (fields ++ bulk) := by
    rw [content, sameHead, isBody]
  have short : (content kind layout message).length < 4294967296 := by
    rw [Frame.bytes_assemble, List.length_append, Bytes.length_ofWord32, ← isContent] at small
    exact Nat.lt_of_add_lt_add_left small
  rw [Frame.bytes_assemble_of_lt (isContent ▸ short), ← isContent]
  apply dispatches.decode_eq_ok_iff.2
  refine ⟨[], by rw [List.append_nil], by rwa [List.append_nil], fits, fun _ => rfl, ?_⟩
  intro none
  simp [none]

/-- A packet that was read is sent as the bytes it was read from, without those behind it. -/
theorem bytes_assemble_of_decode (dispatches : Dispatches reader? kind layout) {bytes : Bytes}
    (read : (Frame.decode bytes).bind (ofFrame reader? unexpected) = .ok message)
    (isBody : layout.write message.packet = fields ++ bulk) {again : Bytes}
    (isAgain : (Frame.assemble (kind message.packet).code message.id fields bulk).bytes = again) :
    again.drop 4 <+: bytes.drop 4 ∧
      (Frame.decode again).bind (ofFrame reader? unexpected) = .ok message ∧
      (again = bytes ↔ leftover reader? bytes = []) ∧
      (layout.ToEnd message.packet → again = bytes) := by
  obtain ⟨rest, rfl, small, fits, last, noId⟩ := dispatches.decode_eq_ok_iff.1 read
  have short : (content kind layout message).length < 4294967296 := by
    rw [List.length_append] at small
    exact Nat.lt_of_add_right_lt small
  have sent : again = Bytes.ofString (content kind layout message) := by
    rw [← isAgain, content, isBody, Frame.bytes_assemble_of_lt]
    rwa [← isBody]
  rw [sent, dispatches.leftover_eq small fits last noId, Bytes.drop_ofString short,
    Bytes.drop_ofString small]
  refine ⟨List.prefix_append .., ?_, ?_, ?_⟩
  · apply dispatches.decode_eq_ok_iff.2
    exact ⟨[], by rw [List.append_nil], by rwa [List.append_nil], fits, fun _ => rfl, noId⟩
  · constructor
    · intro same
      have dropped := congrArg (List.drop 4) same
      rw [Bytes.drop_ofString short, Bytes.drop_ofString small] at dropped
      exact List.self_eq_append_right.1 dropped
    · rintro rfl
      rw [List.append_nil]
  · intro toEnd
    rw [last toEnd, List.append_nil]

end Dispatches

end SftpWire.Message
