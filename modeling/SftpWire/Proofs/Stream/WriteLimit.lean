import SftpWire.Proofs.Stream.Framing

/-!
How much data a request to write can carry past a reader. The limit on data is checked against the
limit on packets with the overhead of a response that gives data, a code, an id and a length. A
request to write has its handle and its offset besides, twelve bytes at the least, so data within
its limit can still make a packet that is too long. `readRequest_write_iff` says when it does.
-/

namespace SftpWire

namespace Source

variable {limits : Limits} {registry : Registry} {stream : Bytes}

/-- A frame that is read holds no more than a packet may. -/
theorem exists_content_of_readFrame {frame : Frame}
    (read : (readFrame limits stream).1 = .ok frame) :
    ∃ content, content.length ≤ limits.maxPacketLength.toNat ∧
      Frame.ofContent content = .ok frame := by
  rw [readFrame] at read
  cases first : Reader.word32.run stream with
  | short rest =>
    rw [first] at read
    cases read
  | done length rest =>
    rw [first] at read
    simp only at read
    by_cases beyond : limits.maxPacketLength < length
    · rw [if_pos beyond] at read
      cases read
    · rw [if_neg beyond] at read
      cases cut : Bytes.split? length.toNat rest with
      | none =>
        rw [cut] at read
        cases read
      | some parts =>
        rw [cut] at read
        obtain ⟨-, counted⟩ := Bytes.split?_eq_some_iff.1 cut
        refine ⟨parts.1, ?_, read⟩
        rw [counted, ← UInt32.le_iff_toNat_le]
        exact UInt32.not_lt.1 beyond

/-- A request that is read is no longer than a packet may be. -/
theorem length_content_of_readRequest {message : Message Request}
    (read : (readRequest limits registry stream).1 = .ok message) :
    (Message.content Request.kind (Request.layout registry) message).length ≤
      limits.maxPacketLength.toNat := by
  have chained : (readFrame limits stream).1.bind (Request.ofFrame registry) = .ok message := read
  cases framed : (readFrame limits stream).1 with
  | error fault =>
    rw [framed] at chained
    cases chained
  | ok frame =>
    rw [framed] at chained
    obtain ⟨content, within, isFrame⟩ := exists_content_of_readFrame framed
    obtain ⟨code, id, rest, split, -, -⟩ :=
      (Request.dispatches registry).ofFrame_eq_ok_iff.1 chained
    obtain ⟨rfl, -⟩ := Frame.ofContent_eq_ok_iff.1 isFrame
    rw [code, id, split, ← List.append_assoc, List.length_append] at within
    exact Nat.le_of_add_right_le within

end Source

/-- Twenty-one bytes stand before the data of a request to write that has no handle. -/
theorem Request.length_content_write (registry : Registry) (id : UInt32) (offset : UInt64)
    (data : Bytes) :
    (Message.content kind (layout registry) { id, packet := .write [] offset data }).length =
      21 + min data.length 4294967295 := by
  have head : (Frame.head Kind.write.code id).length = 5 := Frame.length_head ..
  have handle : (Bytes.ofString []).length = 4 := rfl
  have body : (Request.body (.write [] offset data)).length =
      16 + min data.length 4294967295 := by
    simp only [Request.body, fields, bulk, List.length_append, List.length_take, handle,
      Bytes.toNat_lengthWord, Bytes.length_ofWord64, Bytes.length_ofWord32]
    omega
  show (Frame.head Kind.write.code id ++ Request.body (.write [] offset data)).length = _
  rw [List.length_append, head, body]
  omega

/-- Data that is within the limit for data is as long as its length says, unless there is no limit
at all. -/
theorem Limits.length_le_of_checkData {limits : Limits} {data : Bytes}
    (checked : limits.checkData data = .ok ()) (limited : limits.maxDataLength.toNat < 4294967295) :
    data.length ≤ limits.maxDataLength.toNat := by
  rw [checkData] at checked
  by_cases beyond : limits.maxDataLength < Bytes.lengthWord data.length
  · simp only [if_pos beyond] at checked
    cases checked
  · have within := UInt32.le_iff_toNat_le.1 (UInt32.not_lt.1 beyond)
    rw [Bytes.toNat_lengthWord] at within
    omega

theorem Limits.checkData_replicate (limits : Limits) :
    limits.checkData (List.replicate limits.maxDataLength.toNat 0) = .ok () := by
  have small : limits.maxDataLength.toNat < 4294967296 := limits.maxDataLength.toNat_lt
  have same : Bytes.lengthWord (List.replicate limits.maxDataLength.toNat (0 : UInt8)).length =
      limits.maxDataLength := by
    rw [← UInt32.toNat_inj, List.length_replicate, Bytes.lengthWord_toNat small]
  rw [checkData, same]
  simp only [UInt32.lt_irrefl, if_false]

namespace Source

variable {limits : Limits} {registry : Registry} {id : UInt32} {offset : UInt64} {data : Bytes}

theorem readRequest_write (room : data.length + 21 ≤ limits.maxPacketLength.toNat) :
    limits.Admits (Request.encode id (.write [] offset data)).bytes ∧
      readRequest limits registry (Request.encode id (.write [] offset data)).bytes =
        (.ok { id, packet := .write [] offset data }, []) := by
  have within : (Request.encode id (.write [] offset data)).bytes.length ≤
      4 + limits.maxPacketLength.toNat := by
    rw [Request.bytes_encode registry, List.length_append, Bytes.length_ofWord32,
      Request.length_content_write]
    omega
  have bound := limits.maxPacketLength.toNat_lt
  have admits := Request.admits_encode within
  have suits : (Request.write [] offset data).Suits registry := trivial
  have back := Request.decode_bytes_encode suits (Nat.lt_of_le_of_lt within (by omega))
  refine ⟨admits, ?_⟩
  rw [← List.append_nil (Request.encode id (.write [] offset data)).bytes,
    readRequest_append admits, back]
  rfl

theorem readRequest_write_of_lt (beyond : limits.maxPacketLength.toNat < data.length + 21)
    (counted : data.length + 21 < 4294967296) :
    (readRequest limits registry (Request.encode id (.write [] offset data)).bytes).1 =
      .error (.tooLong (data.length + 21) limits.maxPacketLength.toNat) := by
  have length : (Bytes.lengthWord (Message.content Request.kind (Request.layout registry)
      { id, packet := .write [] offset data }).length).toNat = data.length + 21 := by
    rw [Request.length_content_write, Bytes.toNat_lengthWord]
    omega
  rw [Request.bytes_encode registry, readRequest, readFrame, Reader.run_word32_ofWord32]
  rw [← length] at beyond
  simp only [if_pos (UInt32.lt_iff_toNat_lt.2 beyond), length]
  rfl

/-- A request to write with no handle comes through exactly when its data leaves room for the
twenty-one bytes before it; limits let all of the data come through that they permit exactly when
they leave that room. Valid limits leave nine bytes, which need not be enough. -/
theorem readRequest_write_iff (limits : Limits) (registry : Registry) :
    (∀ (id : UInt32) (offset : UInt64) (data : Bytes),
      ((readRequest limits registry (Request.encode id (.write [] offset data)).bytes).1 =
          .ok { id, packet := .write [] offset data } ↔
        data.length + 21 ≤ limits.maxPacketLength.toNat) ∧
      (data.length + 21 ≤ limits.maxPacketLength.toNat →
        limits.Admits (Request.encode id (.write [] offset data)).bytes ∧
        readRequest limits registry (Request.encode id (.write [] offset data)).bytes =
          (.ok { id, packet := .write [] offset data }, [])) ∧
      (limits.maxPacketLength.toNat < data.length + 21 → data.length + 21 < 4294967296 →
        (readRequest limits registry (Request.encode id (.write [] offset data)).bytes).1 =
          .error (.tooLong (data.length + 21) limits.maxPacketLength.toNat))) ∧
    ((∀ (id : UInt32) (offset : UInt64) (data : Bytes), limits.checkData data = .ok () →
        (readRequest limits registry (Request.encode id (.write [] offset data)).bytes).1 =
          .ok { id, packet := .write [] offset data }) ↔
      limits.maxDataLength.toNat + 21 ≤ limits.maxPacketLength.toNat) := by
  have bound := limits.maxPacketLength.toNat_lt
  have through (id : UInt32) (offset : UInt64) (data : Bytes) :
      (readRequest limits registry (Request.encode id (.write [] offset data)).bytes).1 =
          .ok { id, packet := .write [] offset data } ↔
        data.length + 21 ≤ limits.maxPacketLength.toNat := by
    constructor
    · intro read
      have within := length_content_of_readRequest read
      rw [Request.length_content_write] at within
      omega
    · intro room
      rw [(readRequest_write room).2]
  constructor
  · intro id offset data
    exact ⟨through id offset data, readRequest_write, readRequest_write_of_lt⟩
  · constructor
    · intro all
      have room := (through 0 0 _).1 (all 0 0 _ limits.checkData_replicate)
      rwa [List.length_replicate] at room
    · intro room id offset data checked
      have short := limits.length_le_of_checkData checked (by omega)
      exact (through id offset data).2 (by omega)

/-- Limits that pass their own check, and one byte of data that they permit: the packet of
twenty-two bytes is refused. -/
theorem readRequest_write_refused :
    Limits.check { maxPacketLength := 10, maxDataLength := 1 } =
        .ok { maxPacketLength := 10, maxDataLength := 1 } ∧
      Limits.checkData { maxPacketLength := 10, maxDataLength := 1 } [0x61] = .ok () ∧
      (Request.encode 1 (.write [] 0 [0x61])).bytes.take 4 = Bytes.ofWord32 22 ∧
      (readRequest { maxPacketLength := 10, maxDataLength := 1 } .initial
          (Request.encode 1 (.write [] 0 [0x61])).bytes).1 = .error (.tooLong 22 10) :=
  ⟨rfl, rfl, rfl, rfl⟩

/-- The usual limits leave room enough. -/
theorem readRequest_write_usual :
    (readRequest {} .initial (Request.encode 1 (.write [] 0 [0x61])).bytes).1 =
        .ok { id := 1, packet := .write [] 0 [0x61] } ∧
      ∀ (id : UInt32) (offset : UInt64) (data : Bytes), Limits.checkData {} data = .ok () →
        (readRequest {} .initial (Request.encode id (.write [] offset data)).bytes).1 =
          .ok { id, packet := .write [] offset data } :=
  ⟨((readRequest_write_iff {} .initial).1 1 0 [0x61]).1.2 (by decide),
    (readRequest_write_iff {} .initial).2.2 (by decide)⟩

end Source

end SftpWire
