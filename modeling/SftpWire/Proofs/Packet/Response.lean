import SftpWire.Packet.Response
import SftpWire.Proofs.Attributes.Layout
import SftpWire.Proofs.Extension.Layout
import SftpWire.Proofs.Packet.Message

/-!
The layout of responses, kind by kind, and the readers that give them. Only the values of status
codes are written, so of the codes with one value a reader gives the named one; and the payloads of
replies are given as bytes. Main statements: `dispatches`, by which the readers give exactly the
responses that stand in front, and from it `decode_bytes_encode` and `bytes_encode_of_decode`, the
two ways around.
-/

namespace SftpWire

/-- The layout of a file in a listing. -/
def NameEntry.layout : Layout NameEntry where
  write := NameEntry.bytes
  Fits entry := entry.filename.length < 4294967296 ∧ entry.longname.length < 4294967296 ∧
    Attributes.layout.Fits entry.attrs

namespace NameEntry

theorem embeds : (Layout.string.pair (Layout.string.pair Attributes.layout)).Embeds layout
    fun parts => { filename := parts.1, longname := parts.2.1, attrs := parts.2.2 } :=
  ⟨fun _ => List.append_assoc .., fun _ => Iff.rfl, fun _ => Iff.rfl⟩

theorem layout_closed : layout.Closed :=
  fun _ => not_false

theorem layout_bounded : layout.Bounded := by
  have bounded := Layout.string_bounded.pair
    (Layout.string_bounded.pair Attributes.layout_bounded)
  intro entry small
  exact embeds.fits bounded (entry.filename, entry.longname, entry.attrs) small

theorem reader_reads : reader.Reads layout := by
  intro bytes entry rest
  rw [reader, Reader.string_reads.run_triple_eq_done Layout.string_closed Reader.string_reads
    Layout.string_closed Attributes.reader_reads embeds]
  constructor
  · intro read
    rcases read with ⟨_, _, _, -, splits⟩
    exact splits
  · intro splits
    exact ⟨entry.filename, entry.longname, entry.attrs, rfl, splits⟩

/-- Two lengths and a flag word are in every entry, whatever the attributes. -/
theorem layout_atLeast : layout.AtLeast 12 := by
  have each := Layout.string_atLeast.pair (Layout.string_atLeast.pair Attributes.layout_atLeast)
  intro entry
  exact embeds.atLeast each (entry.filename, entry.longname, entry.attrs)

theorem write_ne_nil (entry : NameEntry) : layout.write entry ≠ [] :=
  layout_atLeast.write_ne_nil (by decide) entry

end NameEntry

/-- The layout of status reports. Of the codes with one value, only the named one can be given
back. -/
def Status.layout : Layout Status where
  write := Status.bytes
  Fits report := report.code.normalize = report.code ∧ report.message.length < 4294967296 ∧
    report.language.length < 4294967296

namespace Status

theorem embeds :
    ((Layout.free Bytes.ofWord32).pair (Layout.string.pair .string)).Embeds layout fun parts =>
      { code := .ofValue parts.1, message := parts.2.1, language := parts.2.2 } := by
  refine ⟨fun parts => ?_, fun parts => ?_, fun _ => Iff.rfl⟩
  · simp only [layout, Status.bytes, StatusCode.value_ofValue, List.append_assoc]
    rfl
  · have isNamed : (StatusCode.ofValue parts.1).normalize = .ofValue parts.1 := by
      rw [StatusCode.normalize, StatusCode.value_ofValue]
    exact and_congr_left' (iff_of_true isNamed trivial)

theorem reader_reads : reader.Reads layout := by
  intro bytes report rest
  rw [reader, Reader.word32_reads.run_triple_eq_done (Layout.free_closed _) Reader.string_reads
    Layout.string_closed Reader.string_reads embeds]
  constructor
  · intro read
    rcases read with ⟨_, _, _, -, splits⟩
    exact splits
  · intro splits
    obtain ⟨code, message, language⟩ := report
    have isNamed : code.normalize = code := splits.fits.1
    exact ⟨code.value, message, language, congrArg (Status.mk · message language) isNamed.symm,
      splits⟩

end Status

namespace Response

/-- The whole body of a response. -/
def body (response : Response) : Bytes :=
  response.fields ++ response.bulk

/-- Responses that can be given back. -/
def Fits : Response → Prop
  | .version _ extensions => ∀ extension ∈ extensions, Extension.layout.Fits extension
  | .status report => Status.layout.Fits report
  | .handle h => h.length < 4294967296
  | .data d => d.length < 4294967296
  | .name entries => entries.length < 4294967296 ∧ ∀ entry ∈ entries, NameEntry.layout.Fits entry
  | .attrs a => Attributes.layout.Fits a
  | .extendedReply payload => payload.kind = .raw

/-- Responses that take their whole frame. -/
def ToEnd : Response → Prop
  | .version .. | .extendedReply _ => True
  | _ => False

/-- The layout of responses. -/
def layout : Layout Response where
  write := body
  Fits := Fits
  ToEnd := ToEnd

variable {bytes rest : Bytes} {response : Response}

/-! ## Layouts of the kinds -/

theorem version_embeds :
    ((Layout.free Bytes.ofWord32).pair Extension.layout.row).Embeds layout fun parts =>
      .version parts.1 parts.2 :=
  ⟨fun _ => List.append_nil _, fun _ => (and_iff_right trivial).symm, fun _ => Iff.rfl⟩

theorem status_embeds : Status.layout.Embeds layout .status :=
  ⟨fun _ => List.append_nil _, fun _ => Iff.rfl, fun _ => Iff.rfl⟩

theorem handle_embeds : Layout.string.Embeds layout .handle :=
  ⟨fun _ => List.append_nil _, fun _ => Iff.rfl, fun _ => Iff.rfl⟩

/-- The data is written apart from its length, but makes a string with it like any other. -/
theorem data_embeds : Layout.string.Embeds layout .data :=
  ⟨fun _ => rfl, fun _ => Iff.rfl, fun _ => Iff.rfl⟩

theorem name_embeds : NameEntry.layout.counted.Embeds layout .name :=
  ⟨fun _ => List.append_nil _, fun _ => Iff.rfl, fun _ => Iff.rfl⟩

theorem attrs_embeds : Attributes.layout.Embeds layout .attrs :=
  ⟨fun _ => List.append_nil _, fun _ => Iff.rfl, fun _ => Iff.rfl⟩

theorem extendedReply_embeds :
    Layout.remaining.Embeds layout fun bytes => .extendedReply (.raw bytes) :=
  ⟨fun _ => List.append_nil _, fun _ => iff_of_true rfl trivial, fun _ => Iff.rfl⟩

/-! ## Readers -/

theorem run_versionReader_eq_done :
    versionReader.run bytes = .done response rest ↔
      ∃ version extensions, response = .version version extensions ∧
        layout.Splits bytes response rest := by
  have extensions := Extension.reader_reads.toEnd_reads Extension.layout_closed
    Extension.write_ne_nil
  exact Reader.word32_reads.run_pair_eq_done (Layout.free_closed _) extensions version_embeds

theorem run_statusReader_eq_done :
    (Response.status <$> Status.reader).run bytes = .done response rest ↔
      ∃ report, response = .status report ∧ layout.Splits bytes response rest :=
  Status.reader_reads.run_map_eq_done status_embeds

theorem run_handleReader_eq_done :
    (Response.handle <$> Reader.string).run bytes = .done response rest ↔
      ∃ h, response = .handle h ∧ layout.Splits bytes response rest :=
  Reader.string_reads.run_map_eq_done handle_embeds

theorem run_dataReader_eq_done :
    (Response.data <$> Reader.string).run bytes = .done response rest ↔
      ∃ d, response = .data d ∧ layout.Splits bytes response rest :=
  Reader.string_reads.run_map_eq_done data_embeds

theorem run_nameReader_eq_done :
    nameReader.run bytes = .done response rest ↔
      ∃ entries, response = .name entries ∧ layout.Splits bytes response rest := by
  have counted {values : List NameEntry} {last : Bytes} :=
    @Reader.Reads.run_counted_eq_done _ _ _ NameEntry.reader_reads NameEntry.layout_closed bytes
      last values
  simp only [nameReader, Reader.run_bind, Reader.run_pure, Outcome.bind_eq_done,
    Outcome.done.injEq]
  constructor
  · intro read
    rcases read with ⟨count, middle, first, entries, _, second, rfl, rfl⟩
    exact ⟨entries, rfl, name_embeds.splits_iff.2 (counted.1 ⟨count, middle, first, second⟩)⟩
  · intro written
    rcases written with ⟨entries, rfl, splits⟩
    obtain ⟨count, middle, first, second⟩ := counted.2 (name_embeds.splits_iff.1 splits)
    exact ⟨count, middle, first, entries, rest, second, rfl, rfl⟩

theorem run_attrsReader_eq_done :
    (Response.attrs <$> Attributes.reader).run bytes = .done response rest ↔
      ∃ a, response = .attrs a ∧ layout.Splits bytes response rest :=
  Attributes.reader_reads.run_map_eq_done attrs_embeds

theorem run_extendedReplyReader_eq_done :
    (Response.extendedReply <$> PayloadKind.reader .raw).run bytes = .done response rest ↔
      ∃ data, response = .extendedReply (.raw data) ∧ layout.Splits bytes response rest := by
  have same : (Response.extendedReply <$> PayloadKind.reader .raw).run bytes =
      ((fun data => Response.extendedReply (.raw data)) <$> Reader.remaining).run bytes := rfl
  rw [same, Reader.remaining_reads.run_map_eq_done extendedReply_embeds]

/-! ## Dispatch -/

theorem dispatches : Message.Dispatches reader? kind layout where
  run_eq_done := by
    intro k reader chosen bytes response rest
    constructor
    · intro read
      cases k with
      | version =>
        cases chosen
        obtain ⟨_, _, rfl, splits⟩ := run_versionReader_eq_done.1 read
        exact ⟨rfl, splits⟩
      | status =>
        cases chosen
        obtain ⟨_, rfl, splits⟩ := run_statusReader_eq_done.1 read
        exact ⟨rfl, splits⟩
      | handle =>
        cases chosen
        obtain ⟨_, rfl, splits⟩ := run_handleReader_eq_done.1 read
        exact ⟨rfl, splits⟩
      | data =>
        cases chosen
        obtain ⟨_, rfl, splits⟩ := run_dataReader_eq_done.1 read
        exact ⟨rfl, splits⟩
      | name =>
        cases chosen
        obtain ⟨_, rfl, splits⟩ := run_nameReader_eq_done.1 read
        exact ⟨rfl, splits⟩
      | attrs =>
        cases chosen
        obtain ⟨_, rfl, splits⟩ := run_attrsReader_eq_done.1 read
        exact ⟨rfl, splits⟩
      | extendedReply =>
        cases chosen
        obtain ⟨_, rfl, splits⟩ := run_extendedReplyReader_eq_done.1 read
        exact ⟨rfl, splits⟩
      | _ => cases chosen
    · intro written
      rcases written with ⟨rfl, splits⟩
      cases response with
      | version version extensions =>
        cases chosen
        exact run_versionReader_eq_done.2 ⟨version, extensions, rfl, splits⟩
      | status report =>
        cases chosen
        exact run_statusReader_eq_done.2 ⟨report, rfl, splits⟩
      | handle h =>
        cases chosen
        exact run_handleReader_eq_done.2 ⟨h, rfl, splits⟩
      | data d =>
        cases chosen
        exact run_dataReader_eq_done.2 ⟨d, rfl, splits⟩
      | name entries =>
        cases chosen
        exact run_nameReader_eq_done.2 ⟨entries, rfl, splits⟩
      | attrs a =>
        cases chosen
        exact run_attrsReader_eq_done.2 ⟨a, rfl, splits⟩
      | extendedReply payload =>
        have isRaw : payload.kind = .raw := splits.fits
        cases payload <;> cases isRaw
        cases chosen
        exact run_extendedReplyReader_eq_done.2 ⟨_, rfl, splits⟩
  isSome response := by
    cases response <;> rfl

/-! ## There and back -/

theorem decode_of_frame {frame : Frame} (isFrame : Frame.decode bytes = .ok frame) :
    decode bytes = ofFrame frame := by
  rw [decode, isFrame]
  rfl

/-- A response is sent as its content behind the length of that. -/
theorem bytes_encode (response : Response) (id : UInt32) :
    (response.encode id).bytes =
      Bytes.ofWord32 (Bytes.lengthWord
          (Message.content kind layout { id, packet := response }).length) ++
        Message.content kind layout { id, packet := response } :=
  Frame.bytes_assemble ..

/-- The response that comes back: the code of a status is the named one if there is one, and the
payload of a reply is bytes. -/
def canonical : Response → Response
  | .status report => .status { report with code := report.code.normalize }
  | .extendedReply payload => .extendedReply (.raw payload.bytes)
  | response => response

theorem kind_canonical (response : Response) : response.canonical.kind = response.kind := by
  cases response <;> rfl

theorem body_canonical (response : Response) : response.canonical.body = response.body := by
  cases response with
  | status report =>
    simp only [canonical, body, fields, bulk, Status.bytes, StatusCode.normalize,
      StatusCode.value_ofValue]
  | _ => rfl

theorem canonical_beq (response : Response) : (response.canonical == response) = true := by
  cases response with
  | version v extensions =>
    show (v == v && extensions == extensions) = true
    rw [beq_self_eq_true, beq_self_eq_true, Bool.and_self]
  | status report =>
    have sameCode : (report.code.normalize == report.code) = true :=
      StatusCode.beq_iff.2 (StatusCode.value_ofValue _)
    show (report.code.normalize == report.code && report.message == report.message &&
      report.language == report.language) = true
    rw [sameCode, beq_self_eq_true, beq_self_eq_true, Bool.and_self, Bool.and_self]
  | handle h => exact beq_self_eq_true h
  | data d => exact beq_self_eq_true d
  | name entries => exact beq_self_eq_true entries
  | attrs a => exact beq_self_eq_true a
  | extendedReply payload => exact beq_self_eq_true payload.bytes

/-- What comes back can come back, as long as the frame can be counted. -/
theorem fits_canonical (small : response.body.length < 4294967296) : Fits response.canonical := by
  cases response with
  | version version extensions =>
    have bounded := (Layout.free_bounded Bytes.ofWord32).pair Extension.layout_bounded.row
    exact version_embeds.fits bounded (version, extensions) small
  | status report =>
    have bounded := (Layout.free_bounded Bytes.ofWord32).pair
      (Layout.string_bounded.pair Layout.string_bounded)
    rw [← body_canonical] at small
    have fits := Status.embeds.fits bounded (report.code.value, report.message, report.language)
    exact fits (Nat.lt_of_add_right_lt (List.length_append ▸ small))
  | handle h => exact handle_embeds.fits Layout.string_bounded h small
  | data d => exact data_embeds.fits Layout.string_bounded d small
  | name entries =>
    have bounded := NameEntry.layout_bounded.counted NameEntry.write_ne_nil
    exact name_embeds.fits bounded entries small
  | attrs a => exact attrs_embeds.fits Attributes.layout_bounded a small
  | extendedReply payload => rfl

theorem carriesId_code (response : Response) :
    TypeCode.carriesId response.kind.code = !decide (response.kind = .version) := by
  cases response <;> rfl

theorem ite_carriesId {α : Type} (response : Response) (carried none : α) :
    (if TypeCode.carriesId response.kind.code then carried else none) =
      if response.kind = .version then none else carried := by
  rw [carriesId_code]
  by_cases opens : response.kind = .version <;> simp [opens]

/-- A response that is sent comes back, but for what equality passes over. -/
theorem decode_bytes_encode {id : UInt32}
    (small : (response.encode id).bytes.length < 4 + 4294967296) :
    decode (response.encode id).bytes =
      .ok { id := if response.kind = .version then 0 else id, packet := response.canonical } := by
  have counted : response.body.length < 4294967296 := by
    rw [encode, Frame.bytes_assemble] at small
    simp only [List.length_append, Bytes.length_ofWord32] at small
    rw [body, List.length_append]
    omega
  rw [← response.ite_carriesId]
  exact dispatches.decode_bytes_assemble (congrArg Kind.code (kind_canonical response))
    (body_canonical response) small (fits_canonical counted)

/-- A response that was read is sent as the bytes it was read from, without those behind it. -/
theorem bytes_encode_of_decode {message : Message Response} (read : decode bytes = .ok message)
    {again : Bytes} (isAgain : (message.packet.encode message.id).bytes = again) :
    again.drop 4 <+: bytes.drop 4 ∧ decode again = .ok message ∧
      (again = bytes ↔ Message.leftover reader? bytes = []) ∧
      (message.packet.ToEnd → again = bytes) :=
  dispatches.bytes_assemble_of_decode read rfl isAgain

theorem toEnd_of_kind (kinds : response.kind = .version ∨ response.kind = .extendedReply) :
    response.ToEnd := by
  cases response with
  | version v extensions => trivial
  | extendedReply payload => trivial
  | _ => rcases kinds with isVersion | isReply <;> contradiction

end Response

end SftpWire
