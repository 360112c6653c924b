import SftpWire.Extension.Registry
import SftpWire.Proofs.Wire.Reads

/-!
The layouts of announced extensions and of payloads. A payload does not say which layout it is
written in, so what a reader of one layout gives are the payloads of that layout only:
`PayloadKind.run_reader_eq_done`. A payload of no known layout is all the bytes that there are.
-/

namespace SftpWire

/-- The layout of an announced extension. -/
def Extension.layout : Layout Extension where
  write := Extension.bytes
  Fits extension :=
    extension.name.length < 4294967296 ∧ extension.data.length < 4294967296

namespace Extension

theorem embeds : (Layout.string.pair .string).Embeds layout fun parts =>
    { name := parts.1, data := parts.2 } :=
  ⟨fun _ => rfl, fun _ => Iff.rfl, fun _ => Iff.rfl⟩

theorem layout_closed : layout.Closed :=
  fun _ => not_false

theorem layout_bounded : layout.Bounded := by
  intro extension small
  exact embeds.fits (Layout.string_bounded.pair Layout.string_bounded)
    (extension.name, extension.data) small

theorem reader_reads : reader.Reads layout := by
  intro bytes extension rest
  rw [reader, Reader.string_reads.run_pair_eq_done Layout.string_closed Reader.string_reads embeds]
  constructor
  · intro read
    rcases read with ⟨_, _, -, splits⟩
    exact splits
  · intro splits
    exact ⟨extension.name, extension.data, rfl, splits⟩

theorem write_ne_nil (extension : Extension) : layout.write extension ≠ [] := by
  intro none
  have length := congrArg List.length none
  simp [layout, bytes, Bytes.ofString] at length

end Extension

theorem Volume.reader_reads : Volume.reader.Reads (.free Volume.bytes) := by
  apply Reader.reads_free
  intro bytes volume rest
  simp only [reader, Reader.run_bind, Reader.run_pure, Outcome.bind_eq_done,
    Reader.run_word64_eq_done, Outcome.done.injEq]
  constructor
  · intro read
    rcases read with ⟨blockSize, _, rfl, fragmentSize, _, rfl, blocks, _, rfl, blocksFree, _, rfl,
      blocksAvailable, _, rfl, files, _, rfl, filesFree, _, rfl, filesAvailable, _, rfl, id, _, rfl,
      mountFlags, _, rfl, maxNameLength, _, rfl, rfl, rfl⟩
    simp only [Volume.bytes, fields, List.flatMap_cons, List.flatMap_nil, List.append_nil,
      List.append_assoc]
  · rintro rfl
    refine ⟨volume.blockSize, _, ?_, volume.fragmentSize, _, rfl, volume.blocks, _, rfl,
      volume.blocksFree, _, rfl, volume.blocksAvailable, _, rfl, volume.files, _, rfl,
      volume.filesFree, _, rfl, volume.filesAvailable, _, rfl, volume.id, _, rfl,
      volume.mountFlags, _, rfl, volume.maxNameLength, rest, rfl, rfl, rfl⟩
    simp only [Volume.bytes, fields, List.flatMap_cons, List.flatMap_nil, List.append_nil,
      List.append_assoc]

namespace Payload

/-- No length in a payload is beyond a word. -/
def Fits : Payload → Prop
  | .raw _ => True
  | .posixRename oldPath newPath => oldPath.length < 4294967296 ∧ newPath.length < 4294967296
  | .hardlink oldPath newPath => oldPath.length < 4294967296 ∧ newPath.length < 4294967296
  | .fsync handle => handle.length < 4294967296
  | .statvfs path => path.length < 4294967296
  | .statvfsReply _ => True

/-- The layout of payloads; one of no known layout goes on to the end. -/
def layout : Layout Payload where
  write := Payload.bytes
  Fits := Payload.Fits
  ToEnd payload := payload.kind = .raw

theorem raw_embeds : Layout.remaining.Embeds layout .raw :=
  ⟨fun _ => rfl, fun _ => Iff.rfl, fun _ => iff_of_true rfl trivial⟩

theorem posixRename_embeds : (Layout.string.pair .string).Embeds layout fun parts =>
    .posixRename parts.1 parts.2 :=
  ⟨fun _ => rfl, fun _ => Iff.rfl, fun _ => iff_of_false nofun not_false⟩

theorem hardlink_embeds : (Layout.string.pair .string).Embeds layout fun parts =>
    .hardlink parts.1 parts.2 :=
  ⟨fun _ => rfl, fun _ => Iff.rfl, fun _ => iff_of_false nofun not_false⟩

theorem fsync_embeds : Layout.string.Embeds layout .fsync :=
  ⟨fun _ => rfl, fun _ => Iff.rfl, fun _ => iff_of_false nofun not_false⟩

theorem statvfs_embeds : Layout.string.Embeds layout .statvfs :=
  ⟨fun _ => rfl, fun _ => Iff.rfl, fun _ => iff_of_false nofun not_false⟩

theorem statvfsReply_embeds : (Layout.free Volume.bytes).Embeds layout .statvfsReply :=
  ⟨fun _ => rfl, fun _ => Iff.rfl, fun _ => iff_of_false nofun not_false⟩

theorem layout_bounded : layout.Bounded := by
  have paths : (Layout.string.pair .string).Bounded :=
    Layout.string_bounded.pair Layout.string_bounded
  intro payload small
  cases payload with
  | raw data => exact raw_embeds.fits Layout.remaining_bounded data small
  | posixRename oldPath newPath => exact posixRename_embeds.fits paths (oldPath, newPath) small
  | hardlink oldPath newPath => exact hardlink_embeds.fits paths (oldPath, newPath) small
  | fsync handle => exact fsync_embeds.fits Layout.string_bounded handle small
  | statvfs path => exact statvfs_embeds.fits Layout.string_bounded path small
  | statvfsReply volume => exact statvfsReply_embeds.fits (Layout.free_bounded _) volume small

end Payload

/-- The reader of a layout gives the payloads of that layout, where they stand. -/
theorem PayloadKind.run_reader_eq_done {kind : PayloadKind} {bytes rest : Bytes}
    {payload : Payload} :
    kind.reader.run bytes = .done payload rest ↔
      payload.kind = kind ∧ Payload.layout.Splits bytes payload rest := by
  cases kind with
  | raw =>
    rw [reader, Reader.remaining_reads.run_map_eq_done Payload.raw_embeds]
    constructor
    · intro read
      rcases read with ⟨data, rfl, splits⟩
      exact ⟨rfl, splits⟩
    · intro written
      rcases written with ⟨isRaw, splits⟩
      cases payload <;> cases isRaw
      exact ⟨_, rfl, splits⟩
  | posixRename =>
    rw [reader, Reader.string_reads.run_pair_eq_done Layout.string_closed Reader.string_reads
      Payload.posixRename_embeds]
    constructor
    · intro read
      rcases read with ⟨oldPath, newPath, rfl, splits⟩
      exact ⟨rfl, splits⟩
    · intro written
      rcases written with ⟨isRename, splits⟩
      cases payload <;> cases isRename
      exact ⟨_, _, rfl, splits⟩
  | hardlink =>
    rw [reader, Reader.string_reads.run_pair_eq_done Layout.string_closed Reader.string_reads
      Payload.hardlink_embeds]
    constructor
    · intro read
      rcases read with ⟨oldPath, newPath, rfl, splits⟩
      exact ⟨rfl, splits⟩
    · intro written
      rcases written with ⟨isHardlink, splits⟩
      cases payload <;> cases isHardlink
      exact ⟨_, _, rfl, splits⟩
  | fsync =>
    rw [reader, Reader.string_reads.run_map_eq_done Payload.fsync_embeds]
    constructor
    · intro read
      rcases read with ⟨handle, rfl, splits⟩
      exact ⟨rfl, splits⟩
    · intro written
      rcases written with ⟨isFsync, splits⟩
      cases payload <;> cases isFsync
      exact ⟨_, rfl, splits⟩
  | statvfs =>
    rw [reader, Reader.string_reads.run_map_eq_done Payload.statvfs_embeds]
    constructor
    · intro read
      rcases read with ⟨path, rfl, splits⟩
      exact ⟨rfl, splits⟩
    · intro written
      rcases written with ⟨isStatvfs, splits⟩
      cases payload <;> cases isStatvfs
      exact ⟨_, rfl, splits⟩
  | statvfsReply =>
    rw [reader, Volume.reader_reads.run_map_eq_done Payload.statvfsReply_embeds]
    constructor
    · intro read
      rcases read with ⟨volume, rfl, splits⟩
      exact ⟨rfl, splits⟩
    · intro written
      rcases written with ⟨isReply, splits⟩
      cases payload <;> cases isReply
      exact ⟨_, rfl, splits⟩

end SftpWire
