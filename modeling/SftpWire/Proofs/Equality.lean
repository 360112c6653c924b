import SftpWire.Proofs.Packet.Request
import SftpWire.Proofs.Packet.Response

/-!
Equality of packets and equality of their bytes. Packets count as equal in more cases than those of
equal fields: status codes by value, payloads by what is written of them. Both kinds of case are
gone from the packets that come back from the wire, so equal packets are those that come back the
same (`Request.beq_iff_canonical_eq`, `Response.beq_iff_canonical_eq`), and these are the packets
that are written alike (`beq_iff_bytes_eq`).
-/

namespace SftpWire

theorem StatusCode.normalize_eq_iff {a b : StatusCode} :
    a.normalize = b.normalize ↔ a.value = b.value := by
  constructor
  · intro same
    have values := congrArg value same
    rwa [normalize, value_ofValue, normalize, value_ofValue] at values
  · intro same
    rw [normalize, normalize, same]

/-- A registry where no name means anything, so that every payload is bytes. -/
def Registry.empty : Registry := { entries := [] }

namespace Request

theorem suits_empty (request : Request) : request.Suits .empty := by
  cases request with
  | extended name payload => exact .inl rfl
  | _ => trivial

/-- Where no name means anything, equal requests are those that come back the same. -/
theorem beq_iff_canonical_eq {a b : Request} :
    (a == b) = true ↔ a.canonical .empty = b.canonical .empty := by
  cases a with
  | extended name payload =>
    cases b with
    | extended name' payload' =>
      have byParts : (Request.extended name payload == .extended name' payload') =
          (name == name' && payload.bytes == payload'.bytes) := rfl
      have canonical_extended (name : Bytes) (payload : Payload) :
          (Request.extended name payload).canonical .empty =
            .extended name (.raw payload.bytes) := rfl
      simp [byParts, canonical_extended]
    | _ => exact iff_of_false Bool.false_ne_true (by rintro ⟨⟩)
  | _ =>
    cases b with
    | extended name payload => exact iff_of_false Bool.false_ne_true (by rintro ⟨⟩)
    | _ => exact decide_eq_true_iff

theorem bytes_encode_canonical (registry : Registry) (request : Request) (id : UInt32) :
    ((request.canonical registry).encode id).bytes = (request.encode id).bytes := by
  have sameContent :
      Message.content kind (layout registry) { id, packet := request.canonical registry } =
        Message.content kind (layout registry) { id, packet := request } := by
    simp only [Message.content, layout, kind_canonical, body_canonical]
  rw [bytes_encode registry, sameContent, ← bytes_encode registry]

/-- Equal requests are of one kind and have one body. -/
theorem kind_body_eq_of_beq {a b : Request} (same : (a == b) = true) :
    a.kind = b.kind ∧ a.body = b.body := by
  have back := beq_iff_canonical_eq.1 same
  constructor
  · rw [← kind_canonical .empty a, back, kind_canonical]
  · rw [← body_canonical .empty a, back, body_canonical]

/-- Equal requests are sent as the same bytes, however long these are. -/
theorem bytes_encode_eq_of_beq {a b : Request} (same : (a == b) = true) (id : UInt32) :
    (a.encode id).bytes = (b.encode id).bytes := by
  have back := beq_iff_canonical_eq.1 same
  rw [← bytes_encode_canonical .empty a, back, bytes_encode_canonical]

/-- Requests that are sent as the same bytes are read as the same request. -/
theorem canonical_eq_of_bytes_encode_eq {a b : Request} {id : UInt32}
    (small : (a.encode id).bytes.length < 4 + 4294967296)
    (same : (a.encode id).bytes = (b.encode id).bytes) :
    a.canonical .empty = b.canonical .empty := by
  have first := decode_bytes_encode a.suits_empty small
  have second := decode_bytes_encode b.suits_empty (same ▸ small)
  rw [same, second] at first
  simp at first
  exact first.2.symm

end Request

namespace Response

/-- Equal responses are those that come back the same. -/
theorem beq_iff_canonical_eq {a b : Response} :
    (a == b) = true ↔ a.canonical = b.canonical := by
  cases a with
  | version v extensions =>
    cases b with
    | version v' extensions' =>
      have byParts : (Response.version v extensions == .version v' extensions') =
          (v == v' && extensions == extensions') := rfl
      simp [byParts, canonical]
    | _ => exact iff_of_false Bool.false_ne_true (by rintro ⟨⟩)
  | status report =>
    cases b with
    | status report' =>
      have byParts : (Response.status report == .status report') =
          (report.code.value == report'.code.value && report.message == report'.message &&
            report.language == report'.language) := rfl
      simp [byParts, canonical, StatusCode.normalize_eq_iff, and_assoc]
    | _ => exact iff_of_false Bool.false_ne_true (by rintro ⟨⟩)
  | handle h =>
    cases b with
    | handle h' =>
      have byParts : (Response.handle h == .handle h') = (h == h') := rfl
      simp [byParts, canonical]
    | _ => exact iff_of_false Bool.false_ne_true (by rintro ⟨⟩)
  | data d =>
    cases b with
    | data d' =>
      have byParts : (Response.data d == .data d') = (d == d') := rfl
      simp [byParts, canonical]
    | _ => exact iff_of_false Bool.false_ne_true (by rintro ⟨⟩)
  | name entries =>
    cases b with
    | name entries' =>
      have byParts : (Response.name entries == .name entries') = (entries == entries') := rfl
      simp [byParts, canonical]
    | _ => exact iff_of_false Bool.false_ne_true (by rintro ⟨⟩)
  | attrs a =>
    cases b with
    | attrs a' =>
      have byParts : (Response.attrs a == .attrs a') = (a == a') := rfl
      simp [byParts, canonical]
    | _ => exact iff_of_false Bool.false_ne_true (by rintro ⟨⟩)
  | extendedReply payload =>
    cases b with
    | extendedReply payload' =>
      have byParts : (Response.extendedReply payload == .extendedReply payload') =
          (payload.bytes == payload'.bytes) := rfl
      simp [byParts, canonical]
    | _ => exact iff_of_false Bool.false_ne_true (by rintro ⟨⟩)

theorem bytes_encode_canonical (response : Response) (id : UInt32) :
    (response.canonical.encode id).bytes = (response.encode id).bytes := by
  have sameContent : Message.content kind layout { id, packet := response.canonical } =
      Message.content kind layout { id, packet := response } := by
    simp only [Message.content, layout, kind_canonical, body_canonical]
  rw [bytes_encode, sameContent, ← bytes_encode]

/-- Equal responses are of one kind and have one body. -/
theorem kind_body_eq_of_beq {a b : Response} (same : (a == b) = true) :
    a.kind = b.kind ∧ a.body = b.body := by
  have back := beq_iff_canonical_eq.1 same
  constructor
  · rw [← kind_canonical a, back, kind_canonical]
  · rw [← body_canonical a, back, body_canonical]

/-- Equal responses are sent as the same bytes, however long these are. -/
theorem bytes_encode_eq_of_beq {a b : Response} (same : (a == b) = true) (id : UInt32) :
    (a.encode id).bytes = (b.encode id).bytes := by
  have back := beq_iff_canonical_eq.1 same
  rw [← bytes_encode_canonical a, back, bytes_encode_canonical]

/-- Responses that are sent as the same bytes are read as the same response. -/
theorem canonical_eq_of_bytes_encode_eq {a b : Response} {id : UInt32}
    (small : (a.encode id).bytes.length < 4 + 4294967296)
    (same : (a.encode id).bytes = (b.encode id).bytes) : a.canonical = b.canonical := by
  have first := decode_bytes_encode small
  have second := decode_bytes_encode (same ▸ small)
  rw [same, second] at first
  simp at first
  exact first.2.symm

end Response

/-- Packets of one side are equal exactly when they are sent as the same bytes, under any id. -/
theorem beq_iff_bytes_eq :
    (∀ (a b : Request) (id : UInt32), (a.encode id).bytes.length < 4294967296 →
      (b.encode id).bytes.length < 4294967296 →
        ((a == b) = true ↔ (a.encode id).bytes = (b.encode id).bytes)) ∧
    ∀ (a b : Response) (id : UInt32), (a.encode id).bytes.length < 4294967296 →
      (b.encode id).bytes.length < 4294967296 →
        ((a == b) = true ↔ (a.encode id).bytes = (b.encode id).bytes) := by
  constructor
  · intro a b id small _
    constructor
    · intro equal
      exact Request.bytes_encode_eq_of_beq equal id
    · intro same
      have back := Request.canonical_eq_of_bytes_encode_eq (by omega) same
      exact Request.beq_iff_canonical_eq.2 back
  · intro a b id small _
    constructor
    · intro equal
      exact Response.bytes_encode_eq_of_beq equal id
    · intro same
      have back := Response.canonical_eq_of_bytes_encode_eq (by omega) same
      exact Response.beq_iff_canonical_eq.2 back

/-- Payloads of two layouts that are written alike; requests that differ in their kind alone; a code
given by its value; and attributes that were set and cleared again. -/
theorem beq_iff_bytes_eq_sample :
    (Request.encode 5 (.extended [0x68] (.hardlink [1] [2]))).bytes =
        (Request.encode 5 (.extended [0x68] (.posixRename [1] [2]))).bytes ∧
      ((Request.onHandle .close [1] == Request.onHandle .fstat [1]) = false) ∧
      (Response.encode 5 (.status (.say (.other 4) []))).bytes =
        (Response.encode 5 (.status (.say .failure []))).bytes ∧
      (Response.attrs (Attributes.empty.edit [.setSize 9, .setTimes 1 2, .clearSize]) ==
        Response.attrs (Attributes.empty.edit [.setTimes 1 2])) = true := by
  have layouts := (beq_iff_bytes_eq.1 (.extended [0x68] (.hardlink [1] [2]))
    (.extended [0x68] (.posixRename [1] [2])) 5 (by decide) (by decide)).1 (by decide)
  have kinds := mt (beq_iff_bytes_eq.1 (.onHandle .close [1]) (.onHandle .fstat [1]) 5 (by decide)
    (by decide)).1 (by decide)
  have codes := (beq_iff_bytes_eq.2 (.status (.say (.other 4) [])) (.status (.say .failure [])) 5
    (by decide) (by decide)).1 (by decide)
  have histories := (beq_iff_bytes_eq.2
    (.attrs (Attributes.empty.edit [.setSize 9, .setTimes 1 2, .clearSize]))
    (.attrs (Attributes.empty.edit [.setTimes 1 2])) 5 (by decide) (by decide)).2 (by decide)
  exact ⟨layouts, Bool.eq_false_iff.2 kinds, codes, histories⟩

end SftpWire
