import SftpWire.Proofs.Outcomes
import SftpWire.Proofs.Text.Legible

/-!
What is said about packets stands on one line: a packet of either side whatever is in it, and what
is said where bytes are no packet. Of a failure this needs that the bytes were read: a report that
the other side has sent may have a message of several lines.
-/

namespace SftpWire

/-! ## Values -/

section

variable {hidden : Char → Bool} (covers : Quoted.Covers hidden)

include covers

theorem Extension.legible_shape (extension : Extension) : Legible (extension.shape hidden) :=
  Shape.legible_record (by simp [Legible]) (by simp [Legible]) (by
    simp [Shape.legible_string covers])

theorem ExtendedAttribute.legible_shape (attr : ExtendedAttribute) : Legible (attr.shape hidden) :=
  Shape.legible_record (by simp [Legible]) (by simp [Legible]) (by
    simp [Shape.legible_string covers])

theorem Attributes.legible_shape (attrs : Attributes) : Legible (attrs.shape hidden) := by
  have mode : Legible "FileMode" := by simp [Legible]
  have extended :=
    Shape.legible_list (ExtendedAttribute.legible_shape covers) attrs.extendedOrEmpty
  exact Shape.legible_record (by simp [Legible]) (by simp [Legible]) (by simp [mode, extended])

theorem NameEntry.legible_shape (entry : NameEntry) : Legible (entry.shape hidden) :=
  Shape.legible_record (by simp [Legible]) (by simp [Legible]) (by
    simp [Shape.legible_string covers, entry.attrs.legible_shape covers])

theorem Payload.legible_shape (payload : Payload) : Legible (payload.shape hidden) := by
  have quoted := Shape.legible_string covers
  cases payload with
  | raw data => exact Shape.legible_tagged.2 ⟨by simp [Legible], by simp⟩
  | statvfsReply volume =>
    exact Shape.legible_record (by simp [Legible]) (by simp [Volume.fields, Legible])
      (by simp [Volume.fields])
  | _ => exact Shape.legible_record (by simp [Legible]) (by simp [Legible]) (by simp [quoted])

end

/-! ## Reports -/

namespace StatusCode

@[simp] theorem legible_title (code : StatusCode) : Legible code.title := by
  cases code with
  | other value =>
    have marks : Legible "Other(" ∧ Legible ")" := by simp [Legible]
    simp [title, marks]
  | _ => simp [title, Legible]

theorem legible_word (code : StatusCode) : Legible code.word := by
  cases code
  all_goals simp [word, Legible]

theorem legible_display (code : StatusCode) : Legible code.display := by
  have marks : Legible "SSH_FX_" ∧ Legible "SSH_FX_UNKNOWN(" ∧ Legible ")" := by simp [Legible]
  rw [display]
  split
  · simp [marks]
  · simp [marks, legible_word]

end StatusCode

namespace Status

theorem legible_shape {hidden : Char → Bool} (covers : Quoted.Covers hidden) (report : Status) :
    Legible (report.shape hidden) :=
  Shape.legible_record (by simp [Legible]) (by simp [Legible]) (by
    simp [Shape.legible_string covers])

/-- A report whose message is the UTF-8 form of a text on one line. -/
theorem legible_display {report : Status} {text : String} (legible : Legible text)
    (isText : report.message = Utf8.ofString text) : Legible report.display := by
  have marks : Legible "sftp: " ∧ Legible ": " := by simp [Legible]
  have said : Utf8.toStringLossy report.message = text := by
    rw [isText, Utf8.toStringLossy, Utf8.ofString, Utf8.lossy_encode, String.ofList_toList]
  simp only [display, said]
  split
  · simp [marks, StatusCode.legible_display]
  · simp [marks, StatusCode.legible_display, legible]

end Status

/-! ## Kinds -/

namespace Kind

theorem legible_title (kind : Kind) : Legible kind.title := by
  cases kind
  all_goals simp [title, Legible]

theorem legible_label (kind : Kind) : Legible kind.label := by
  cases kind
  all_goals simp [label, word, Legible]

theorem legible_shape (kind : Kind) {fields : List (String × String)}
    (labels : ∀ field ∈ fields, Legible field.1) (values : ∀ field ∈ fields, Legible field.2) :
    Legible (kind.shape fields) := by
  have isTitle := kind.legible_title
  have isName : Legible (kind.title ++ "Packet") :=
    legible_append.2 ⟨isTitle, by simp [Legible]⟩
  exact Shape.legible_tagged.2 ⟨isTitle, Shape.legible_record isName labels values⟩

end Kind

theorem TypeCode.legible_display (code : TypeCode) : Legible code.display := by
  have marks : Legible "SSH_FXP_UNKNOWN(" ∧ Legible ")" := by simp [Legible]
  rw [display]
  split
  · exact Kind.legible_label _
  · simp [marks]

/-! ## Faults -/

namespace Fault

theorem legible_short : Legible short.message := by
  show Legible "sftp: short packet"
  simp [Legible]

theorem legible_lengthMismatch (declared actual : Nat) :
    Legible (lengthMismatch declared actual).message := by
  have marks : Legible "sftp: frame length mismatch: declared " ∧
      Legible " bytes, got " := by simp [Legible]
  show Legible s!"sftp: frame length mismatch: declared {declared} bytes, got {actual}"
  simp [marks]

theorem legible_unexpectedRequest (code : TypeCode) : Legible (unexpectedRequest code).message := by
  have unexpected : Legible "unexpected request packet type: " := by simp [Legible]
  show Legible (Status.display (.badMessage _))
  exact Status.legible_display (legible_append.2 ⟨unexpected, code.legible_display⟩) rfl

theorem legible_unexpectedResponse (code : TypeCode) :
    Legible (unexpectedResponse code).message := by
  rw [unexpectedResponse]
  split
  · have unexpected : Legible "sftp: unexpected response packet type: " := by simp [Legible]
    exact legible_append.2 ⟨unexpected, code.legible_display⟩
  · have unknown : Legible "sftp: unknown packet type: " := by simp [Legible]
    exact legible_append.2 ⟨unknown, legible_repr _⟩

end Fault

/-- What is said where bytes are no packet stands on one line if it does for every code that cannot
be read. -/
theorem Message.legible_message {α : Type} {reader? : Kind → Option (Reader α)}
    {unexpected : TypeCode → Fault} {bytes : Bytes} {fault : Fault}
    (legible : ∀ code, Legible (unexpected code).message)
    (failed : (Frame.decode bytes).bind (ofFrame reader? unexpected) = .error fault) :
    Legible fault.message := by
  by_cases short : fault = .short
  · rw [short]
    exact Fault.legible_short
  · rcases (decode_eq_error_iff short).1 failed with
      ⟨declared, actual, -, rfl⟩ | ⟨code, -, -, rfl⟩
    · exact Fault.legible_lengthMismatch declared actual
    · exact legible code

/-! ## Packets -/

namespace Request

variable {registry : Registry} {bytes : Bytes} {fault : Fault}

theorem legible_shape {hidden : Char → Bool} (covers : Quoted.Covers hidden) (request : Request) :
    Legible (request.shape hidden) := by
  have quoted := Shape.legible_string covers
  have attributes := Attributes.legible_shape covers
  rw [shape.eq_def]
  refine request.kind.legible_shape ?labels ?values
  case labels =>
    cases request
    all_goals simp [Legible]
  case values =>
    cases request with
    | init version extensions =>
      have listed := Shape.legible_list (Extension.legible_shape covers) extensions
      simp [listed]
    | _ => simp [quoted, attributes, Payload.legible_shape covers]

theorem legible_message (failed : decode registry bytes = .error fault) :
    Legible fault.message :=
  Message.legible_message Fault.legible_unexpectedRequest failed

end Request

namespace Response

variable {bytes : Bytes} {fault : Fault}

theorem legible_shape {hidden : Char → Bool} (covers : Quoted.Covers hidden)
    (response : Response) : Legible (response.shape hidden) := by
  have attributes := Attributes.legible_shape covers
  cases response with
  | version version extensions =>
    have listed := Shape.legible_list (Extension.legible_shape covers) extensions
    rw [shape]
    exact Kind.version.legible_shape (by simp [Legible]) (by simp [listed])
  | status report =>
    rw [shape]
    exact Shape.legible_tagged.2 ⟨Kind.status.legible_title, report.legible_shape covers⟩
  | name entries =>
    have listed := Shape.legible_list (NameEntry.legible_shape covers) entries
    rw [shape]
    exact Kind.name.legible_shape (by simp [Legible]) (by simp [listed])
  | _ =>
    rw [shape]
    exact Kind.legible_shape _ (by simp [Legible]) (by
      simp [attributes, Payload.legible_shape covers])

theorem legible_message (failed : decode bytes = .error fault) : Legible fault.message :=
  Message.legible_message Fault.legible_unexpectedResponse failed

end Response

end SftpWire
