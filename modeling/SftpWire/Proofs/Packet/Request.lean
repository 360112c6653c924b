import SftpWire.Packet.Request
import SftpWire.Proofs.Attributes.Layout
import SftpWire.Proofs.Extension.Layout
import SftpWire.Proofs.Packet.Message

/-!
The layout of requests, kind by kind, and the readers that give them. A registry has a say in the
extended ones: their payload must have the layout that belongs to their name. Main statements:
`dispatches`, by which the readers give exactly the requests that stand in front, and from it
`decode_bytes_encode` and `bytes_encode_of_decode`, the two ways around.
-/

namespace SftpWire.Request

/-- The whole body of a request. -/
def body (request : Request) : Bytes :=
  request.fields ++ request.bulk

/-- Requests that can be given back: no length is beyond a word, and the payload is what the name
promises. -/
def Fits (registry : Registry) : Request → Prop
  | .init _ extensions => ∀ extension ∈ extensions, Extension.layout.Fits extension
  | .openFile filename _ attrs => filename.length < 4294967296 ∧ Attributes.layout.Fits attrs
  | .onHandle _ handle => handle.length < 4294967296
  | .read handle _ _ => handle.length < 4294967296
  | .write handle _ data => handle.length < 4294967296 ∧ data.length < 4294967296
  | .onPath _ path => path.length < 4294967296
  | .onPathWith _ path attrs => path.length < 4294967296 ∧ Attributes.layout.Fits attrs
  | .fsetstat handle attrs => handle.length < 4294967296 ∧ Attributes.layout.Fits attrs
  | .rename oldPath newPath => oldPath.length < 4294967296 ∧ newPath.length < 4294967296
  | .symlink link target => target.length < 4294967296 ∧ link.length < 4294967296
  | .extended name payload =>
    name.length < 4294967296 ∧ payload.kind = registry.resolve name ∧ Payload.layout.Fits payload

/-- Requests that take their whole frame. -/
def ToEnd : Request → Prop
  | .init .. => True
  | .extended _ payload => payload.kind = .raw
  | _ => False

/-- The layout of requests. -/
def layout (registry : Registry) : Layout Request where
  write := body
  Fits := Fits registry
  ToEnd := ToEnd

variable {registry : Registry} {bytes rest : Bytes} {request : Request}

/-! ## Layouts of the kinds -/

theorem init_embeds (registry : Registry) :
    ((Layout.free Bytes.ofWord32).pair Extension.layout.row).Embeds (layout registry) fun parts =>
      .init parts.1 parts.2 :=
  ⟨fun _ => List.append_nil _, fun _ => (and_iff_right trivial).symm, fun _ => Iff.rfl⟩

theorem openFile_embeds (registry : Registry) :
    (Layout.string.pair ((Layout.free Bytes.ofWord32).pair Attributes.layout)).Embeds
      (layout registry) fun parts => .openFile parts.1 parts.2.1 parts.2.2 := by
  refine ⟨fun _ => ?_, fun _ => ?_, fun _ => Iff.rfl⟩
  · exact (List.append_nil _).trans (List.append_assoc ..)
  · exact and_congr_right fun _ => (and_iff_right trivial).symm

theorem onHandle_embeds (registry : Registry) {operation : HandleOperation} :
    Layout.string.Embeds (layout registry) (.onHandle operation) :=
  ⟨fun _ => List.append_nil _, fun _ => Iff.rfl, fun _ => Iff.rfl⟩

theorem read_embeds (registry : Registry) :
    (Layout.string.pair ((Layout.free Bytes.ofWord64).pair (.free Bytes.ofWord32))).Embeds
      (layout registry) fun parts => .read parts.1 parts.2.1 parts.2.2 := by
  refine ⟨fun _ => ?_, fun _ => ?_, fun _ => Iff.rfl⟩
  · exact (List.append_nil _).trans (List.append_assoc ..)
  · exact (and_iff_left ⟨trivial, trivial⟩).symm

/-- The data is written apart from its length, but makes a string with it like any other. -/
theorem write_embeds (registry : Registry) :
    (Layout.string.pair ((Layout.free Bytes.ofWord64).pair .string)).Embeds (layout registry)
      fun parts => .write parts.1 parts.2.1 parts.2.2 := by
  refine ⟨fun _ => ?_, fun _ => ?_, fun _ => Iff.rfl⟩
  · simp only [layout, body, fields, bulk, Layout.pair, Layout.string, Layout.free, Bytes.ofString,
      List.append_assoc]
  · exact and_congr_right fun _ => (and_iff_right trivial).symm

theorem onPath_embeds (registry : Registry) {operation : PathOperation} :
    Layout.string.Embeds (layout registry) (.onPath operation) :=
  ⟨fun _ => List.append_nil _, fun _ => Iff.rfl, fun _ => Iff.rfl⟩

theorem onPathWith_embeds (registry : Registry) {operation : SetOperation} :
    (Layout.string.pair Attributes.layout).Embeds (layout registry) fun parts =>
      .onPathWith operation parts.1 parts.2 :=
  ⟨fun _ => List.append_nil _, fun _ => Iff.rfl, fun _ => Iff.rfl⟩

theorem fsetstat_embeds (registry : Registry) :
    (Layout.string.pair Attributes.layout).Embeds (layout registry) fun parts =>
      .fsetstat parts.1 parts.2 :=
  ⟨fun _ => List.append_nil _, fun _ => Iff.rfl, fun _ => Iff.rfl⟩

theorem rename_embeds (registry : Registry) :
    (Layout.string.pair .string).Embeds (layout registry) fun parts => .rename parts.1 parts.2 :=
  ⟨fun _ => List.append_nil _, fun _ => Iff.rfl, fun _ => Iff.rfl⟩

/-- Of the two paths of a link, the target stands first. -/
theorem symlink_embeds (registry : Registry) :
    (Layout.string.pair .string).Embeds (layout registry) fun parts => .symlink parts.2 parts.1 :=
  ⟨fun _ => List.append_nil _, fun _ => Iff.rfl, fun _ => Iff.rfl⟩

/-! ## Readers -/

theorem run_initReader_eq_done :
    initReader.run bytes = .done request rest ↔
      ∃ version extensions, request = .init version extensions ∧
        (layout registry).Splits bytes request rest := by
  have extensions := Extension.reader_reads.toEnd_reads Extension.layout_closed
    Extension.write_ne_nil
  exact Reader.word32_reads.run_pair_eq_done (Layout.free_closed _) extensions
    (init_embeds registry)

theorem run_openReader_eq_done :
    openReader.run bytes = .done request rest ↔
      ∃ filename access attrs, request = .openFile filename access attrs ∧
        (layout registry).Splits bytes request rest :=
  Reader.string_reads.run_triple_eq_done Layout.string_closed Reader.word32_reads
    (Layout.free_closed _) Attributes.reader_reads (openFile_embeds registry)

theorem run_onHandleReader_eq_done {operation : HandleOperation} :
    (onHandleReader operation).run bytes = .done request rest ↔
      ∃ handle, request = .onHandle operation handle ∧
        (layout registry).Splits bytes request rest :=
  Reader.string_reads.run_map_eq_done (onHandle_embeds registry)

theorem run_readReader_eq_done :
    readReader.run bytes = .done request rest ↔
      ∃ handle offset length, request = .read handle offset length ∧
        (layout registry).Splits bytes request rest :=
  Reader.string_reads.run_triple_eq_done Layout.string_closed Reader.word64_reads
    (Layout.free_closed _) Reader.word32_reads (read_embeds registry)

theorem run_writeReader_eq_done :
    writeReader.run bytes = .done request rest ↔
      ∃ handle offset data, request = .write handle offset data ∧
        (layout registry).Splits bytes request rest :=
  Reader.string_reads.run_triple_eq_done Layout.string_closed Reader.word64_reads
    (Layout.free_closed _) Reader.string_reads (write_embeds registry)

theorem run_onPathReader_eq_done {operation : PathOperation} :
    (onPathReader operation).run bytes = .done request rest ↔
      ∃ path, request = .onPath operation path ∧ (layout registry).Splits bytes request rest :=
  Reader.string_reads.run_map_eq_done (onPath_embeds registry)

theorem run_onPathWithReader_eq_done {operation : SetOperation} :
    (onPathWithReader operation).run bytes = .done request rest ↔
      ∃ path attrs, request = .onPathWith operation path attrs ∧
        (layout registry).Splits bytes request rest :=
  Reader.string_reads.run_pair_eq_done Layout.string_closed Attributes.reader_reads
    (onPathWith_embeds registry)

theorem run_fsetstatReader_eq_done :
    fsetstatReader.run bytes = .done request rest ↔
      ∃ handle attrs, request = .fsetstat handle attrs ∧
        (layout registry).Splits bytes request rest :=
  Reader.string_reads.run_pair_eq_done Layout.string_closed Attributes.reader_reads
    (fsetstat_embeds registry)

theorem run_renameReader_eq_done :
    renameReader.run bytes = .done request rest ↔
      ∃ oldPath newPath, request = .rename oldPath newPath ∧
        (layout registry).Splits bytes request rest :=
  Reader.string_reads.run_pair_eq_done Layout.string_closed Reader.string_reads
    (rename_embeds registry)

theorem run_symlinkReader_eq_done :
    symlinkReader.run bytes = .done request rest ↔
      ∃ target link, request = .symlink link target ∧
        (layout registry).Splits bytes request rest :=
  Reader.string_reads.run_pair_eq_done Layout.string_closed Reader.string_reads
    (symlink_embeds registry)

theorem run_extendedReader_eq_done :
    (extendedReader registry).run bytes = .done request rest ↔
      ∃ name payload, request = .extended name payload ∧
        (layout registry).Splits bytes request rest := by
  simp only [extendedReader, Reader.run_bind, Reader.run_pure, Outcome.bind_eq_done,
    Reader.run_string_eq_done, PayloadKind.run_reader_eq_done, Outcome.done.injEq]
  constructor
  · intro read
    rcases read with ⟨name, _, ⟨rfl, short⟩, payload, _, ⟨isKind, rfl, fits, last⟩, rfl, rfl⟩
    refine ⟨name, payload, rfl, ?_, ⟨short, isKind, fits⟩, last⟩
    simp only [layout, body, fields, bulk, List.append_assoc, List.nil_append]
    rfl
  · intro written
    rcases written with ⟨name, payload, rfl, rfl, ⟨short, isKind, fits⟩, last⟩
    refine ⟨name, _, ⟨?_, short⟩, payload, rest, ⟨isKind, rfl, fits, last⟩, rfl, rfl⟩
    simp only [layout, body, fields, bulk, List.append_assoc, List.nil_append]
    rfl

/-! ## Dispatch -/

theorem dispatches (registry : Registry) :
    Message.Dispatches (reader? registry) kind (layout registry) where
  run_eq_done := by
    intro k reader chosen bytes request rest
    constructor
    -- Every kind has one reader, and the requests that it makes are of one constructor.
    · intro read
      cases k with
      | init =>
        cases chosen
        obtain ⟨_, _, rfl, splits⟩ := run_initReader_eq_done.1 read
        exact ⟨rfl, splits⟩
      | openFile =>
        cases chosen
        obtain ⟨_, _, _, rfl, splits⟩ := run_openReader_eq_done.1 read
        exact ⟨rfl, splits⟩
      | close | fstat | readdir =>
        cases chosen
        obtain ⟨_, rfl, splits⟩ := run_onHandleReader_eq_done.1 read
        exact ⟨rfl, splits⟩
      | read =>
        cases chosen
        obtain ⟨_, _, _, rfl, splits⟩ := run_readReader_eq_done.1 read
        exact ⟨rfl, splits⟩
      | write =>
        cases chosen
        obtain ⟨_, _, _, rfl, splits⟩ := run_writeReader_eq_done.1 read
        exact ⟨rfl, splits⟩
      | lstat | opendir | remove | rmdir | realpath | stat | readlink =>
        cases chosen
        obtain ⟨_, rfl, splits⟩ := run_onPathReader_eq_done.1 read
        exact ⟨rfl, splits⟩
      | setstat | mkdir =>
        cases chosen
        obtain ⟨_, _, rfl, splits⟩ := run_onPathWithReader_eq_done.1 read
        exact ⟨rfl, splits⟩
      | fsetstat =>
        cases chosen
        obtain ⟨_, _, rfl, splits⟩ := run_fsetstatReader_eq_done.1 read
        exact ⟨rfl, splits⟩
      | rename =>
        cases chosen
        obtain ⟨_, _, rfl, splits⟩ := run_renameReader_eq_done.1 read
        exact ⟨rfl, splits⟩
      | symlink =>
        cases chosen
        obtain ⟨_, _, rfl, splits⟩ := run_symlinkReader_eq_done.1 read
        exact ⟨rfl, splits⟩
      | extended =>
        cases chosen
        obtain ⟨_, _, rfl, splits⟩ := run_extendedReader_eq_done.1 read
        exact ⟨rfl, splits⟩
      | _ => cases chosen
    -- The other way the constructor comes first: only an operation leaves the kind open.
    · intro written
      rcases written with ⟨rfl, splits⟩
      cases request with
      | init version extensions =>
        cases chosen
        exact run_initReader_eq_done.2 ⟨version, extensions, rfl, splits⟩
      | openFile filename access attrs =>
        cases chosen
        exact run_openReader_eq_done.2 ⟨filename, access, attrs, rfl, splits⟩
      | onHandle operation handle =>
        have read := run_onHandleReader_eq_done.2 ⟨handle, rfl, splits⟩
        cases operation <;> cases chosen <;> exact read
      | read handle offset length =>
        cases chosen
        exact run_readReader_eq_done.2 ⟨handle, offset, length, rfl, splits⟩
      | write handle offset data =>
        cases chosen
        exact run_writeReader_eq_done.2 ⟨handle, offset, data, rfl, splits⟩
      | onPath operation path =>
        have read := run_onPathReader_eq_done.2 ⟨path, rfl, splits⟩
        cases operation <;> cases chosen <;> exact read
      | onPathWith operation path attrs =>
        have read := run_onPathWithReader_eq_done.2 ⟨path, attrs, rfl, splits⟩
        cases operation <;> cases chosen <;> exact read
      | fsetstat handle attrs =>
        cases chosen
        exact run_fsetstatReader_eq_done.2 ⟨handle, attrs, rfl, splits⟩
      | rename oldPath newPath =>
        cases chosen
        exact run_renameReader_eq_done.2 ⟨oldPath, newPath, rfl, splits⟩
      | symlink link target =>
        cases chosen
        exact run_symlinkReader_eq_done.2 ⟨target, link, rfl, splits⟩
      | extended name payload =>
        cases chosen
        exact run_extendedReader_eq_done.2 ⟨name, payload, rfl, splits⟩
  isSome request := by
    cases request with
    | onHandle operation handle => cases operation <;> rfl
    | onPath operation path => cases operation <;> rfl
    | onPathWith operation path attrs => cases operation <;> rfl
    | _ => rfl

/-! ## There and back -/

theorem decode_of_frame {frame : Frame} (isFrame : Frame.decode bytes = .ok frame) :
    decode registry bytes = ofFrame registry frame := by
  rw [decode, isFrame]
  rfl

/-- A request is sent as its content behind the length of that. -/
theorem bytes_encode (registry : Registry) (request : Request) (id : UInt32) :
    (request.encode id).bytes =
      Bytes.ofWord32 (Bytes.lengthWord
          (Message.content kind (layout registry) { id, packet := request }).length) ++
        Message.content kind (layout registry) { id, packet := request } :=
  Frame.bytes_assemble ..

/-- The payload of an extended request is in the layout that is registered for its name, if one
is. -/
def Suits (registry : Registry) : Request → Prop
  | .extended name payload => registry.find? name = none ∨ payload.kind = registry.resolve name
  | _ => True

/-- The request that comes back: where nothing is registered for a name, the payload is bytes. -/
def canonical (registry : Registry) : Request → Request
  | .extended name payload =>
    .extended name (if registry.find? name = none then .raw payload.bytes else payload)
  | request => request

theorem kind_canonical (registry : Registry) (request : Request) :
    (request.canonical registry).kind = request.kind := by
  cases request <;> rfl

theorem body_canonical (registry : Registry) (request : Request) :
    (request.canonical registry).body = request.body := by
  cases request with
  | extended name payload =>
    by_cases unknown : registry.find? name = none
    · rw [canonical, if_pos unknown]
      rfl
    · rw [canonical, if_neg unknown]
  | _ => rfl

theorem canonical_beq (registry : Registry) (request : Request) :
    (request.canonical registry == request) = true := by
  cases request with
  | extended name payload =>
    show (name == name && Payload.sameBytes _ payload) = true
    rw [beq_self_eq_true, Bool.true_and, Payload.sameBytes, beq_iff_eq]
    split <;> rfl
  | _ => exact decide_eq_true rfl

/-- What comes back can come back, as long as the frame can be counted. -/
theorem fits_canonical (suits : request.Suits registry)
    (small : request.body.length < 4294967296) : Fits registry (request.canonical registry) := by
  have text := Layout.string_bounded
  have attributes := Attributes.layout_bounded
  cases request with
  | init version extensions =>
    have bounded := (Layout.free_bounded Bytes.ofWord32).pair Extension.layout_bounded.row
    exact (init_embeds registry).fits bounded (version, extensions) small
  | openFile filename access attrs =>
    have bounded := text.pair ((Layout.free_bounded Bytes.ofWord32).pair attributes)
    exact (openFile_embeds registry).fits bounded (filename, access, attrs) small
  | onHandle operation handle => exact (onHandle_embeds registry).fits text handle small
  | read handle offset length =>
    have bounded := text.pair
      ((Layout.free_bounded Bytes.ofWord64).pair (Layout.free_bounded Bytes.ofWord32))
    exact (read_embeds registry).fits bounded (handle, offset, length) small
  | write handle offset data =>
    have bounded := text.pair ((Layout.free_bounded Bytes.ofWord64).pair text)
    exact (write_embeds registry).fits bounded (handle, offset, data) small
  | onPath operation path => exact (onPath_embeds registry).fits text path small
  | onPathWith operation path attrs =>
    exact (onPathWith_embeds registry).fits (text.pair attributes) (path, attrs) small
  | fsetstat handle attrs =>
    exact (fsetstat_embeds registry).fits (text.pair attributes) (handle, attrs) small
  | rename oldPath newPath =>
    exact (rename_embeds registry).fits (text.pair text) (oldPath, newPath) small
  | symlink link target =>
    exact (symlink_embeds registry).fits (text.pair text) (target, link) small
  | extended name payload =>
    have lengths : (Request.extended name payload).body.length =
        (Bytes.ofString name).length + payload.bytes.length := by
      simp only [body, bulk, fields, List.append_nil, List.length_append]
    have short : name.length < 4294967296 := Bytes.length_lt_of_length_ofString_lt (by omega)
    by_cases unknown : registry.find? name = none
    · rw [canonical, if_pos unknown]
      refine ⟨short, ?_, trivial⟩
      rw [Registry.resolve, unknown]
      rfl
    · have fits : Payload.Fits payload := by
        apply Payload.layout_bounded payload
        show payload.bytes.length < 4294967296
        omega
      rw [canonical, if_neg unknown]
      exact ⟨short, suits.resolve_left unknown, fits⟩

theorem carriesId_code (request : Request) :
    TypeCode.carriesId request.kind.code = !decide (request.kind = .init) := by
  cases request with
  | onHandle operation handle => cases operation <;> rfl
  | onPath operation path => cases operation <;> rfl
  | onPathWith operation path attrs => cases operation <;> rfl
  | _ => rfl

theorem ite_carriesId {α : Type} (request : Request) (carried none : α) :
    (if TypeCode.carriesId request.kind.code then carried else none) =
      if request.kind = .init then none else carried := by
  rw [carriesId_code]
  by_cases opens : request.kind = .init <;> simp [opens]

/-- A request that is sent comes back, but for what equality passes over. -/
theorem decode_bytes_encode (suits : request.Suits registry) {id : UInt32}
    (small : (request.encode id).bytes.length < 4 + 4294967296) :
    decode registry (request.encode id).bytes =
      .ok { id := if request.kind = .init then 0 else id
            packet := request.canonical registry } := by
  have counted : request.body.length < 4294967296 := by
    rw [encode, Frame.bytes_assemble] at small
    simp only [List.length_append, Bytes.length_ofWord32] at small
    rw [body, List.length_append]
    omega
  rw [← request.ite_carriesId]
  exact (dispatches registry).decode_bytes_assemble
    (congrArg Kind.code (kind_canonical registry request)) (body_canonical registry request) small
    (fits_canonical suits counted)

/-- A request that was read is sent as the bytes it was read from, without those behind it. -/
theorem bytes_encode_of_decode {message : Message Request}
    (read : decode registry bytes = .ok message) {again : Bytes}
    (isAgain : (message.packet.encode message.id).bytes = again) :
    again.drop 4 <+: bytes.drop 4 ∧ decode registry again = .ok message ∧
      (again = bytes ↔ Message.leftover (reader? registry) bytes = []) ∧
      (message.packet.ToEnd → again = bytes) :=
  (dispatches registry).bytes_assemble_of_decode read rfl isAgain

theorem exists_init_of_kind (opens : request.kind = .init) :
    ∃ version extensions, request = .init version extensions := by
  cases request with
  | init version extensions => exact ⟨version, extensions, rfl⟩
  | onHandle operation handle => cases operation <;> cases opens
  | onPath operation path => cases operation <;> cases opens
  | onPathWith operation path attrs => cases operation <;> cases opens
  | _ => cases opens

theorem exists_extended_of_kind (isExtended : request.kind = .extended) :
    ∃ name payload, request = .extended name payload := by
  cases request with
  | extended name payload => exact ⟨name, payload, rfl⟩
  | onHandle operation handle => cases operation <;> cases isExtended
  | onPath operation path => cases operation <;> cases isExtended
  | onPathWith operation path attrs => cases operation <;> cases isExtended
  | _ => cases isExtended

theorem toEnd_of_kind (opens : request.kind = .init) : request.ToEnd := by
  obtain ⟨version, extensions, rfl⟩ := exists_init_of_kind opens
  trivial

/-- A request that was read has the payload that its name promises. -/
theorem kind_payload_of_decode {message : Message Request}
    (read : decode registry bytes = .ok message) {name : Bytes} {payload : Payload}
    (isExtended : message.packet = .extended name payload) :
    payload.kind = registry.resolve name := by
  obtain ⟨_, _, _, fits, _⟩ := (dispatches registry).decode_eq_ok_iff.1 read
  rw [isExtended] at fits
  exact fits.2.1

end SftpWire.Request
