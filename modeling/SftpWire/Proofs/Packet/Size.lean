import SftpWire.Proofs.Attributes.Codec
import SftpWire.Proofs.Packet.Request
import SftpWire.Proofs.Packet.Response

/-!
The sizes of packets. Announced extensions, payloads, reports and listed files each have a size
beside their writer, as attributes have, and so has every kind of packet. Main statements:
`Request.length_fields` and `Response.length_fields`, by which the fields of a packet take exactly
its size, whatever is in them.
-/

namespace SftpWire

theorem Extension.layout_measured : layout.Measured size := by
  intro extension small
  exact embeds.length_write (Layout.string_measured.pair Layout.string_measured)
    (extension.name, extension.data) small

theorem Volume.length_bytes (volume : Volume) : volume.bytes.length = 11 * 8 := by
  simp [bytes, fields]

theorem Payload.layout_measured : layout.Measured size := by
  have paths := Layout.string_measured.pair Layout.string_measured
  intro payload small
  cases payload with
  | raw data => exact raw_embeds.length_write Layout.remaining_measured data small
  | posixRename oldPath newPath =>
    exact posixRename_embeds.length_write paths (oldPath, newPath) small
  | hardlink oldPath newPath => exact hardlink_embeds.length_write paths (oldPath, newPath) small
  | fsync handle => exact fsync_embeds.length_write Layout.string_measured handle small
  | statvfs path => exact statvfs_embeds.length_write Layout.string_measured path small
  | statvfsReply volume => exact volume.length_bytes

theorem NameEntry.layout_measured : layout.Measured size := by
  intro entry small
  have length := embeds.length_write
    (Layout.string_measured.pair (Layout.string_measured.pair Attributes.layout_measured))
    (entry.filename, entry.longname, entry.attrs) small
  simp only at length
  rw [length, size]
  omega

/-- The code takes four bytes whether it has a name or not. -/
theorem Status.layout_measured : layout.Measured size := by
  have measured := (Layout.free_measured Bytes.length_ofWord32).pair
    (Layout.string_measured.pair Layout.string_measured)
  intro report small
  have written : layout.write report =
      ((Layout.free Bytes.ofWord32).pair (Layout.string.pair .string)).write
        (report.code.value, report.message, report.language) := List.append_assoc ..
  rw [written] at small ⊢
  have length := measured _ small
  simp only at length
  rw [length, size]
  omega

namespace Request

theorem length_data_of_write {handle data : Bytes} {offset : UInt64}
    (small : (body (.write handle offset data)).length < 4294967296) :
    data.length < 4294967296 := by
  have bounded := Layout.string_bounded.pair
    ((Layout.free_bounded Bytes.ofWord64).pair Layout.string_bounded)
  exact ((write_embeds .initial).fits bounded (handle, offset, data) small).2

theorem bulk_write {handle data : Bytes} {offset : UInt64} (short : data.length < 4294967296) :
    bulk (.write handle offset data) = data := by
  rw [bulk, Bytes.lengthWord_toNat short, List.take_length]

/-- What is sent on its own is the data of a request to write. -/
theorem bulk_eq_iff {request : Request} (small : request.body.length < 4294967296) {data : Bytes}
    (nonempty : data ≠ []) :
    request.bulk = data ↔ ∃ handle offset, request = .write handle offset data := by
  constructor
  · intro isBulk
    cases request with
    | write handle offset whole =>
      rw [bulk_write (length_data_of_write small)] at isBulk
      exact ⟨handle, offset, isBulk ▸ rfl⟩
    | _ => exact absurd isBulk.symm nonempty
  · rintro ⟨handle, offset, rfl⟩
    exact bulk_write (length_data_of_write small)

/-- The fields of a request take its size; the data of a request to write is not among them. -/
theorem length_fields {request : Request} (small : request.body.length < 4294967296) :
    request.fields.length = request.size := by
  have text := Layout.string_measured
  have word := Layout.free_measured Bytes.length_ofWord32
  have long := Layout.free_measured Bytes.length_ofWord64
  have attributes := Attributes.layout_measured
  cases request with
  | init version extensions =>
    have measured := word.pair Extension.layout_measured.row
    exact measured.length_fields ((init_embeds .initial).write_eq (version, extensions)) small rfl
  | openFile filename access attrs =>
    have measured := text.pair (word.pair attributes)
    refine measured.length_fields ((openFile_embeds .initial).write_eq (filename, access, attrs))
      small ?_
    simp only [size, bulk, List.length_nil]
    omega
  | onHandle operation handle =>
    exact text.length_fields ((onHandle_embeds .initial).write_eq handle) small rfl
  | read handle offset length =>
    have measured := text.pair (long.pair word)
    exact measured.length_fields ((read_embeds .initial).write_eq (handle, offset, length)) small
      rfl
  | write handle offset data =>
    have measured := text.pair (long.pair text)
    refine measured.length_fields ((write_embeds .initial).write_eq (handle, offset, data)) small ?_
    rw [bulk_write (length_data_of_write small)]
    simp only [size]
    omega
  | onPath operation path =>
    exact text.length_fields ((onPath_embeds .initial).write_eq path) small rfl
  | onPathWith operation path attrs =>
    exact (text.pair attributes).length_fields ((onPathWith_embeds .initial).write_eq (path, attrs))
      small rfl
  | fsetstat handle attrs =>
    exact (text.pair attributes).length_fields ((fsetstat_embeds .initial).write_eq (handle, attrs))
      small rfl
  | rename oldPath newPath =>
    refine (text.pair text).length_fields ((rename_embeds .initial).write_eq (oldPath, newPath))
      small ?_
    simp only [size, bulk, List.length_nil]
    omega
  | symlink link target =>
    refine (text.pair text).length_fields ((symlink_embeds .initial).write_eq (target, link))
      small ?_
    simp only [size, bulk, List.length_nil]
    omega
  | extended name payload =>
    have written : body (.extended name payload) =
        (Layout.string.pair Payload.layout).write (name, payload) := List.append_nil _
    exact (text.pair Payload.layout_measured).length_fields written small rfl

end Request

namespace Response

theorem length_data_of_data {d : Bytes} (small : (body (.data d)).length < 4294967296) :
    d.length < 4294967296 :=
  data_embeds.fits Layout.string_bounded d small

theorem bulk_data {d : Bytes} (short : d.length < 4294967296) : bulk (.data d) = d := by
  rw [bulk, Bytes.lengthWord_toNat short, List.take_length]

/-- What is sent on its own is the data of a response that gives data. -/
theorem bulk_eq_iff {response : Response} (small : response.body.length < 4294967296) {d : Bytes}
    (nonempty : d ≠ []) : response.bulk = d ↔ response = .data d := by
  constructor
  · intro isBulk
    cases response with
    | data whole =>
      rw [bulk_data (length_data_of_data small)] at isBulk
      rw [isBulk]
    | _ => exact absurd isBulk.symm nonempty
  · rintro rfl
    exact bulk_data (length_data_of_data small)

/-- The fields of a response take its size; the data that it gives is not among them. -/
theorem length_fields {response : Response} (small : response.body.length < 4294967296) :
    response.fields.length = response.size := by
  have text := Layout.string_measured
  have word := Layout.free_measured Bytes.length_ofWord32
  cases response with
  | version version extensions =>
    have measured := word.pair Extension.layout_measured.row
    exact measured.length_fields (version_embeds.write_eq (version, extensions)) small rfl
  | status report =>
    exact Status.layout_measured.length_fields (status_embeds.write_eq report) small rfl
  | handle h => exact text.length_fields (handle_embeds.write_eq h) small rfl
  | data d =>
    refine text.length_fields (data_embeds.write_eq d) small ?_
    rw [bulk_data (length_data_of_data small), size]
  | name entries =>
    exact NameEntry.layout_measured.counted.length_fields (name_embeds.write_eq entries) small rfl
  | attrs a => exact Attributes.layout_measured.length_fields (attrs_embeds.write_eq a) small rfl
  | extendedReply payload =>
    have written : body (.extendedReply payload) = Payload.layout.write payload :=
      List.append_nil _
    exact Payload.layout_measured.length_fields written small rfl

end Response

end SftpWire
