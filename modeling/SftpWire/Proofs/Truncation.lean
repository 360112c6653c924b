import SftpWire.Proofs.Equality
import SftpWire.Proofs.Wire.Prefix

/-!
Packets cut short. A frame that has lost its end still declares its whole length, so it runs short
(`Frame.decode_eq_short_of_isPrefix`). When the length is put right for what is left, the reader of
the body runs short in its turn, unless the packet goes on to the end of its frame: then what is
left may be a packet, but never one that equals the whole. Main statement: `decode_truncated`.
-/

namespace SftpWire

namespace Frame

/-- The first bytes of a frame, under the length that is right for them. -/
def truncate (n : Nat) (frame : Bytes) : Bytes :=
  setLength (UInt32.ofNat (n - 4)) (frame.take n)

variable {content part body : Bytes} {code : TypeCode} {id : UInt32}

/-- A frame that lacks any of its bytes runs short, whatever it holds. -/
theorem decode_eq_short_of_isPrefix (small : content.length < 4294967296)
    (front : part <+: Bytes.ofString content) (cut : part ≠ Bytes.ofString content) :
    decode part = .error .short := by
  obtain ⟨tail, split⟩ := front
  by_cases few : part.length < 4
  · exact decode_of_length_lt few
  · obtain ⟨declared, rest, rfl⟩ := Reader.exists_word32_append (Nat.le_of_not_lt few)
    rw [Bytes.ofString_eq small, List.append_assoc] at split
    have words := congrArg (fun bytes => Bytes.value (bytes.take 4)) split
    have behind := List.append_inj_right split (by simp only [Bytes.length_ofWord32])
    simp only [Bytes.value_take_ofWord32_append, UInt32.toNat_ofNat_of_lt' small] at words
    have missing : tail ≠ [] := by
      rintro rfl
      rw [List.append_nil] at split
      exact cut (split.trans (Bytes.ofString_eq small).symm)
    have less : rest.length < declared.toNat := by
      have some := List.length_pos_iff.2 missing
      rw [words, ← behind, List.length_append]
      omega
    rw [decode_ofWord32_append, if_pos less]

theorem truncate_ofString (small : content.length < 4294967296) {n : Nat} (least : 4 ≤ n)
    (most : n ≤ 4 + content.length) :
    truncate n (Bytes.ofString content) = Bytes.ofString (content.take (n - 4)) := by
  have length : (content.take (n - 4)).length = n - 4 := by
    rw [List.length_take]
    omega
  have shorter : (content.take (n - 4)).length < 4294967296 := by omega
  rw [Bytes.ofString_eq shorter, length, truncate, setLength, List.drop_take,
    Bytes.drop_ofString small]

/-- A part of a frame's content is too short for a frame or is one with a part of the body. -/
theorem ofContent_of_isPrefix (front : part <+: head code id ++ body) :
    ofContent part = .error .short ∨
      ∃ frame, ofContent part = .ok frame ∧ frame.code = code ∧
        part = head code id ++ frame.body := by
  rcases ofContent_eq_short_or_ok part with short | ⟨frame, isFrame⟩
  · exact .inl short
  · obtain ⟨rfl, -⟩ := ofContent_eq_ok_iff.1 isFrame
    obtain ⟨tail, split⟩ := front
    have sameCode : frame.code = code := by
      simp only [head, List.cons_append, List.cons.injEq] at split
      exact split.1
    have sameLength : (head frame.code frame.id).length = (head code id).length := by
      rw [length_head, length_head, sameCode]
    rw [List.append_assoc] at split
    have sameHead := (List.append_inj split sameLength).1
    exact .inr ⟨frame, isFrame, sameCode, by rw [sameHead]⟩

end Frame

namespace Message.Dispatches

variable {α : Type} {reader? : Kind → Option (Reader α)} {kind : α → Kind} {layout : Layout α}
  {unexpected : TypeCode → Fault} {message : Message α} {packet : α} {id : UInt32}
  {bytes part : Bytes}

/-- The reader of a kind reads the packets of that kind. -/
theorem reads (dispatches : Dispatches reader? kind layout) {k : Kind} {reader : Reader α}
    (chosen : reader? k = some reader) :
    reader.Reads (layout.only fun packet => kind packet = k) := by
  intro bytes packet rest
  rw [dispatches.run_eq_done chosen, Layout.only_splits_iff]

/-- A strict part of the content of a packet's frame runs short. -/
theorem ofContent_eq_short_of_isPrefix (dispatches : Dispatches reader? kind layout)
    (fits : layout.Fits packet)
    (delimits : (layout.only fun other => kind other = kind packet).Delimits packet)
    (front : part <+: content kind layout { id, packet })
    (cut : part ≠ content kind layout { id, packet }) :
    (Frame.ofContent part).bind (ofFrame reader? unexpected) = .error .short := by
  rcases Frame.ofContent_of_isPrefix front with short | ⟨frame, isFrame, code, split⟩
  · rw [short]
    rfl
  · obtain ⟨reader, found⟩ := Option.isSome_iff_exists.1 (dispatches.isSome packet)
    have bodyFront : frame.body <+: layout.write packet := by
      rw [split] at front
      exact (List.prefix_append_right_inj _).1 front
    have bodyCut : frame.body ≠ layout.write packet := by
      intro same
      rw [split, same] at cut
      exact cut rfl
    obtain ⟨left, run⟩ :=
      (dispatches.reads found).run_eq_short_of_isPrefix ⟨rfl, fits⟩ delimits bodyFront bodyCut
    rw [isFrame]
    show ofFrame reader? unexpected frame = _
    simp only [ofFrame, code, Kind.ofCode?_code, Option.bind_some, found, run]

/-- What is read from the frame of a packet is a string that holds the packet. -/
theorem content_of_decode (dispatches : Dispatches reader? kind layout)
    (sent : bytes = Bytes.ofWord32 (Bytes.lengthWord (content kind layout { id, packet }).length) ++
      content kind layout { id, packet })
    (read : (Frame.decode bytes).bind (ofFrame reader? unexpected) = .ok message) :
    bytes = Bytes.ofString (content kind layout { id, packet }) ∧
      (content kind layout { id, packet }).length < 4294967296 ∧ layout.Fits message.packet := by
  obtain ⟨rest, isString, small, fits, -⟩ := dispatches.decode_eq_ok_iff.1 read
  have dropped : content kind layout { id, packet } = content kind layout message ++ rest := by
    have behind := congrArg (List.drop 4) (sent.symm.trans isString)
    rwa [List.drop_left' (Bytes.length_ofWord32 _), Bytes.drop_ofString small] at behind
  rw [← dropped] at isString small
  exact ⟨isString, small, fits⟩

/-- A packet is no longer than the content it is read from. -/
theorem length_content_le_of_decode (dispatches : Dispatches reader? kind layout)
    (small : part.length < 4294967296)
    (read : (Frame.decode (Bytes.ofString part)).bind (ofFrame reader? unexpected) =
      .ok message) :
    (content kind layout message).length ≤ part.length := by
  obtain ⟨rest, isString, counted, -⟩ := dispatches.decode_eq_ok_iff.1 read
  have behind := congrArg (List.drop 4) isString
  rw [Bytes.drop_ofString small, Bytes.drop_ofString counted] at behind
  rw [behind, List.length_append]
  exact Nat.le_add_right ..

/-- What becomes of a packet that comes back from the wire when its frame loses its end. -/
theorem truncated (dispatches : Dispatches reader? kind layout)
    (sent : bytes = Bytes.ofWord32 (Bytes.lengthWord (content kind layout { id, packet }).length) ++
      content kind layout { id, packet })
    (read : (Frame.decode bytes).bind (ofFrame reader? unexpected) = .ok message)
    (sameKind : kind message.packet = kind packet)
    (sameBody : layout.write message.packet = layout.write packet) :
    (∀ part, part <+: bytes → part ≠ bytes → Frame.decode part = .error .short) ∧
      ∀ n, 4 ≤ n → n < bytes.length →
        (∀ other, (Frame.decode (Frame.truncate n bytes)).bind (ofFrame reader? unexpected) =
            .ok other →
          ¬ (kind other.packet = kind packet ∧
            layout.write other.packet = layout.write packet)) ∧
        ((layout.only fun other => kind other = kind packet).Delimits packet →
          (Frame.decode (Frame.truncate n bytes)).bind (ofFrame reader? unexpected) =
            .error .short) := by
  obtain ⟨rfl, small, fits⟩ := dispatches.content_of_decode sent read
  have total : (Bytes.ofString (content kind layout { id, packet })).length =
      4 + (content kind layout { id, packet }).length := Bytes.length_ofString small
  constructor
  · intro part front cut
    exact Frame.decode_eq_short_of_isPrefix small front cut
  · intro n least most
    rw [total] at most
    rw [Frame.truncate_ofString small least (by omega)]
    have length : ((content kind layout { id, packet }).take (n - 4)).length = n - 4 := by
      rw [List.length_take]
      omega
    constructor
    · intro other isOther same
      have enough := dispatches.length_content_le_of_decode (by omega) isOther
      have sameLength : (content kind layout other).length =
          (content kind layout { id, packet }).length := by
        rw [length_content, length_content, same.1, same.2]
      omega
    · intro delimits
      have sameContent : content kind layout { id, packet := message.packet } =
          content kind layout { id, packet } := by
        simp only [content, sameKind, sameBody]
      rw [← sameKind] at delimits
      rw [Frame.decode_ofString (by omega)]
      apply dispatches.ofContent_eq_short_of_isPrefix fits (delimits.of_write_eq sameBody)
      · rw [sameContent]
        exact List.take_prefix ..
      · intro same
        rw [same, sameContent] at length
        omega

end Message.Dispatches

namespace Request

/-- A request comes back from the wire as an equal one. -/
def Returns (registry : Registry) (id : UInt32) (request : Request) : Prop :=
  ∃ message, decode registry (request.encode id).bytes = .ok message ∧
    (message.packet == request) = true

/-- Requests that may still be requests when their end is missing: those that announce extensions,
and those whose payload is bytes. -/
def Open (registry : Registry) : Request → Prop
  | .init _ extensions => extensions ≠ []
  | .extended name _ => registry.resolve name = .raw
  | _ => False

theorem delimits {registry : Registry} {request : Request} (closed : ¬ request.Open registry)
    (small : request.body.length < 4294967296) :
    ((layout registry).only fun other => other.kind = request.kind).Delimits request := by
  rintro other ⟨sameKind, fits⟩ front shorter toEnd
  -- Only two constructors go on to the end, and the request is of the same one.
  cases other with
  | init version extensions =>
    obtain ⟨version', extensions', rfl⟩ := exists_init_of_kind sameKind.symm
    obtain rfl : extensions' = [] := Classical.not_not.1 closed
    have whole : (body (.init version' [])).length = 4 := Bytes.length_ofWord32 version'
    have least : 4 ≤ (body (.init version extensions)).length := by
      simp only [body, fields, List.length_append, Bytes.length_ofWord32]
      omega
    exact shorter (front.eq_of_length_le (Nat.le_trans (Nat.le_of_eq whole) least))
  | extended name payload =>
    obtain ⟨name', payload', rfl⟩ := exists_extended_of_kind sameKind.symm
    obtain ⟨short, isKind, -⟩ := fits
    have short' : name'.length < 4294967296 := by
      apply Bytes.length_lt_of_length_ofString_lt
      simp only [body, fields, List.length_append] at small
      omega
    obtain ⟨tail, split⟩ := front
    have aligned : Bytes.ofString name ++ (payload.bytes ++ tail) =
        Bytes.ofString name' ++ payload'.bytes := by
      simpa only [Layout.only, layout, body, fields, bulk, List.append_nil, List.append_assoc]
        using split
    have sameName := (Bytes.ofString_append_inj short short' aligned).1
    exact closed (sameName ▸ isKind.symm.trans toEnd)
  | _ => exact toEnd

end Request

namespace Response

/-- A response comes back from the wire as an equal one. -/
def Returns (id : UInt32) (response : Response) : Prop :=
  ∃ message, decode (response.encode id).bytes = .ok message ∧
    (message.packet == response) = true

/-- Responses that may still be responses when their end is missing: those that announce extensions,
and replies. -/
def Open : Response → Prop
  | .version _ extensions => extensions ≠ []
  | .extendedReply _ => True
  | _ => False

theorem delimits {response : Response} (closed : ¬ response.Open) :
    (layout.only fun other => other.kind = response.kind).Delimits response := by
  rintro other ⟨sameKind, fits⟩ front shorter toEnd
  cases other with
  | version version extensions =>
    cases response with
    | version version' extensions' =>
      obtain rfl : extensions' = [] := Classical.not_not.1 closed
      have whole : (body (.version version' [])).length = 4 := Bytes.length_ofWord32 version'
      have least : 4 ≤ (body (.version version extensions)).length := by
        simp only [body, fields, List.length_append, Bytes.length_ofWord32]
        omega
      exact shorter (front.eq_of_length_le (Nat.le_trans (Nat.le_of_eq whole) least))
    | _ => cases sameKind
  | extendedReply payload =>
    cases response with
    | extendedReply payload' => exact closed trivial
    | _ => cases sameKind
  | _ => exact toEnd

end Response

/-- A lost end never goes unnoticed. Of a frame that comes back from the wire, every strict part
runs short; and when the length is put right for what is left, no part is a packet that equals the
whole, and every part runs short unless the packet goes on to the end of its frame. -/
theorem decode_truncated :
    (∀ (registry : Registry) (request : Request) (id : UInt32), request.Returns registry id →
      (∀ part, part <+: (request.encode id).bytes → part ≠ (request.encode id).bytes →
        Request.decode registry part = .error .short) ∧
      ∀ n, 4 ≤ n → n < (request.encode id).bytes.length →
        (∀ message,
          Request.decode registry (Frame.truncate n (request.encode id).bytes) = .ok message →
            (message.packet == request) = false) ∧
        (¬ request.Open registry →
          Request.decode registry (Frame.truncate n (request.encode id).bytes) =
            .error .short)) ∧
    ∀ (response : Response) (id : UInt32), response.Returns id →
      (∀ part, part <+: (response.encode id).bytes → part ≠ (response.encode id).bytes →
        Response.decode part = .error .short) ∧
      ∀ n, 4 ≤ n → n < (response.encode id).bytes.length →
        (∀ message, Response.decode (Frame.truncate n (response.encode id).bytes) = .ok message →
          (message.packet == response) = false) ∧
        (¬ response.Open →
          Response.decode (Frame.truncate n (response.encode id).bytes) = .error .short) := by
  constructor
  · rintro registry request id ⟨message, read, equal⟩
    obtain ⟨sameKind, sameBody⟩ := Request.kind_body_eq_of_beq equal
    have sent := request.bytes_encode registry id
    have dispatches := Request.dispatches registry
    obtain ⟨-, counted, -⟩ := dispatches.content_of_decode sent read
    have small : request.body.length < 4294967296 := by
      rw [Message.length_content] at counted
      exact Nat.lt_of_add_left_lt counted
    obtain ⟨lost, shortened⟩ := dispatches.truncated sent read sameKind sameBody
    constructor
    · intro part front cut
      rw [Request.decode, lost part front cut]
      rfl
    · intro n least most
      obtain ⟨unequal, runsShort⟩ := shortened n least most
      constructor
      · intro other isOther
        apply Bool.eq_false_iff.2
        intro equal
        exact unequal other isOther (Request.kind_body_eq_of_beq equal)
      · intro closed
        exact runsShort (Request.delimits closed small)
  · rintro response id ⟨message, read, equal⟩
    obtain ⟨sameKind, sameBody⟩ := Response.kind_body_eq_of_beq equal
    have sent := response.bytes_encode id
    obtain ⟨lost, shortened⟩ := Response.dispatches.truncated sent read sameKind sameBody
    constructor
    · intro part front cut
      rw [Response.decode, lost part front cut]
      rfl
    · intro n least most
      obtain ⟨unequal, runsShort⟩ := shortened n least most
      constructor
      · intro other isOther
        apply Bool.eq_false_iff.2
        intro equal
        exact unequal other isOther (Response.kind_body_eq_of_beq equal)
      · intro closed
        exact runsShort (Response.delimits closed)

/-- A request to close that lost its end, first under the old length and then under the right one; a
request that opens a session and lost the only extension it announced; and an empty listing. -/
theorem decode_truncated_sample :
    (Request.decode .initial ((Request.encode 1 (.onHandle .close [7])).bytes.take 9) =
        .error .short ∧
      Request.decode .initial (Frame.truncate 9 (Request.encode 1 (.onHandle .close [7])).bytes) =
        .error .short) ∧
    (Request.decode .initial (Frame.truncate 9 (Request.encode 0 (.init 3 [⟨[1], [2]⟩])).bytes) =
        .ok { id := 0, packet := .init 3 [] } ∧
      (Request.init 3 [] == Request.init 3 [⟨[1], [2]⟩]) = false) ∧
    Response.decode (Frame.truncate 12 (Response.encode 1 (.name [])).bytes) = .error .short := by
  have close := decode_truncated.1 .initial (.onHandle .close [7]) 1 ⟨_, rfl, by decide⟩
  have opens := decode_truncated.1 .initial (.init 3 [⟨[1], [2]⟩]) 0 ⟨_, rfl, by decide⟩
  have listing := decode_truncated.2 (.name []) 1 ⟨_, rfl, by decide⟩
  have lost := close.1 _ (List.take_prefix 9 _) (by decide)
  have shortened := (close.2 9 (by decide) (by decide)).2 not_false
  have unequal := (opens.2 9 (by decide) (by decide)).1 { id := 0, packet := .init 3 [] } rfl
  have empty := (listing.2 12 (by decide) (by decide)).2 not_false
  exact ⟨⟨lost, shortened⟩, ⟨rfl, unequal⟩, empty⟩

end SftpWire
