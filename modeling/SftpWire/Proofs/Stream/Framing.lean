import SftpWire.Proofs.Packet.Request
import SftpWire.Stream.Sink
import SftpWire.Stream.Source

/-!
Packets in a row on a stream. A reader looks at the length in front and takes that many bytes, so
what it makes of a frame does not depend on what follows, and where it stops does not depend on what
the frame holds: `Call.run_append`. By induction on the frames the calls give of a stream what they
give of its frames one by one, failures included, and what was written in a row is read in that row.
-/

namespace SftpWire

/-- Bytes begin with the length of what follows, and that is no longer than a packet may be. What
follows need not make sense. -/
def Limits.Admits (limits : Limits) (bytes : Bytes) : Prop :=
  ∃ length content, bytes = Bytes.ofWord32 length ++ content ∧ length.toNat = content.length ∧
    length ≤ limits.maxPacketLength

namespace Source

variable {limits : Limits} {registry : Registry} {bytes : Bytes}

/-! ## One call -/

/-- A frame on a stream is the frame that its bytes are. -/
theorem readFrame_append (admits : limits.Admits bytes) (stream : Bytes) :
    readFrame limits (bytes ++ stream) = (Frame.decode bytes, stream) := by
  obtain ⟨length, content, rfl, counted, within⟩ := admits
  have alone : Frame.decode (Bytes.ofWord32 length ++ content) = Frame.ofContent content := by
    simp only [Frame.decode, Reader.run_word32_ofWord32, counted, Nat.lt_irrefl, if_false]
  have cut : Bytes.split? length.toNat (content ++ stream) = some (content, stream) := by
    rw [counted, Bytes.split?_append]
  rw [readFrame, List.append_assoc, Reader.run_word32_ofWord32, alone]
  simp only [if_neg (UInt32.not_lt.2 within), cut]

theorem readRequest_append (admits : limits.Admits bytes) (stream : Bytes) :
    readRequest limits registry (bytes ++ stream) = (Request.decode registry bytes, stream) := by
  rw [readRequest, readFrame_append admits]
  rfl

theorem readResponse_append (admits : limits.Admits bytes) (stream : Bytes) :
    readResponse limits (bytes ++ stream) = (Response.decode bytes, stream) := by
  rw [readResponse, readFrame_append admits]
  rfl

/-- What a call makes of the bytes of one frame. -/
def Call.decode (registry : Registry) (call : Call) (bytes : Bytes) : Except Fault Item :=
  match call with
  | .frame => (Frame.decode bytes).map Item.frame
  | .request => (Request.decode registry bytes).map Item.request
  | .response => (Response.decode bytes).map Item.response

/-- A call gives what the frame in front is and leaves what follows, whether the frame is good or
not. -/
theorem Call.run_append (call : Call) (admits : limits.Admits bytes) (stream : Bytes) :
    call.run limits registry (bytes ++ stream) = (call.decode registry bytes, stream) := by
  cases call with
  | frame => rw [Call.run, readFrame_append admits]; rfl
  | request => rw [Call.run, readRequest_append admits]; rfl
  | response => rw [Call.run, readResponse_append admits]; rfl

theorem Call.run_nil (call : Call) : call.run limits registry [] = (.error endInLength, []) := by
  cases call <;> rfl

/-! ## Calls in a row -/

/-- The stream after calls in turn. -/
def after (limits : Limits) (registry : Registry) (calls : List Call) (stream : Bytes) : Bytes :=
  calls.foldl (fun stream call => (call.run limits registry stream).2) stream

theorem run_cons (call : Call) (calls : List Call) (stream : Bytes) :
    run limits registry (call :: calls) stream =
      call.run limits registry stream ::
        run limits registry calls (call.run limits registry stream).2 := rfl

/-- Further calls go on where the ones before them stopped. -/
theorem run_append (calls more : List Call) (stream : Bytes) :
    run limits registry (calls ++ more) stream =
      run limits registry calls stream ++
        run limits registry more (after limits registry calls stream) := by
  induction calls generalizing stream with
  | nil => rfl
  | cons call calls ih =>
    rw [List.cons_append, run_cons, run_cons, ih]
    rfl

/-- As many calls as there are frames in front take these frames one by one. -/
theorem run_flatten_append (registry : Registry) {calls : List Call} {frames : List Bytes}
    (admitted : ∀ frame ∈ frames, limits.Admits frame) (same : calls.length = frames.length)
    (stream : Bytes) :
    (run limits registry calls (frames.flatten ++ stream)).map Prod.fst =
        List.zipWith (Call.decode registry) calls frames ∧
      after limits registry calls (frames.flatten ++ stream) = stream := by
  induction frames generalizing calls with
  | nil =>
    obtain rfl := List.length_eq_zero_iff.1 same
    exact ⟨rfl, rfl⟩
  | cons frame frames ih =>
    obtain ⟨call, calls, rfl⟩ := List.exists_cons_of_length_eq_add_one same
    obtain ⟨first, others⟩ := List.forall_mem_cons.1 admitted
    obtain ⟨items, rest⟩ := ih others (Nat.succ.inj same)
    have step : call.run limits registry (frame ++ (frames.flatten ++ stream)) =
        (call.decode registry frame, frames.flatten ++ stream) :=
      call.run_append first _
    rw [List.flatten_cons, List.append_assoc]
    constructor
    · rw [run_cons, step, List.map_cons, items]
      rfl
    · rw [after, List.foldl_cons, step]
      exact rest

end Source

/-! ## Writing -/

namespace Sink

theorem write_of_room {sink : Sink} {bytes : Bytes}
    (room : sink.written.length + bytes.length ≤ sink.capacity) :
    sink.write bytes = (.ok (), { sink with written := sink.written ++ bytes }) := by
  have fits : bytes.length ≤ sink.capacity - sink.written.length := by omega
  simp only [write, if_pos fits, List.take_of_length_le fits]

theorem write_of_full {sink : Sink} {bytes : Bytes}
    (beyond : sink.capacity - sink.written.length < bytes.length) :
    sink.write bytes = (.error full, { sink with
      written := sink.written ++ bytes.take (sink.capacity - sink.written.length) }) := by
  simp only [write, if_neg (Nat.not_le.2 beyond)]

/-- Bytes are written like the two parts that they are cut into, of which the second is not begun
unless the first was taken whole. -/
theorem write_append (front rest : Bytes) (sink : Sink) :
    sink.write (front ++ rest) =
      match sink.write front with
      | (.error fault, next) => (.error fault, next)
      | (.ok (), next) => next.write rest := by
  by_cases fits : front.length ≤ sink.capacity - sink.written.length
  · have first : sink.write front = (.ok (), { sink with written := sink.written ++ front }) := by
      simp only [write, if_pos fits, List.take_of_length_le fits]
    have space : sink.capacity - (sink.written ++ front).length =
        sink.capacity - sink.written.length - front.length := by
      rw [List.length_append, Nat.sub_add_eq]
    have room : (front ++ rest).length ≤ sink.capacity - sink.written.length ↔
        rest.length ≤ sink.capacity - sink.written.length - front.length := by
      rw [List.length_append, Nat.le_sub_iff_add_le' fits]
    rw [first]
    simp only [write, room, space, List.take_append, List.take_of_length_le fits,
      List.append_assoc]
  · have beyond := Nat.not_le.1 fits
    rw [write_of_full beyond, write_of_full (by rw [List.length_append]; omega),
      List.take_append_of_le_length (Nat.le_of_lt beyond)]

/-- On a stream that is full before the end as well, header and payload are as good as one write of
all the bytes. -/
theorem writeFrame_eq (encoded : Encoded) (sink : Sink) :
    sink.writeFrame encoded = sink.write encoded.bytes := by
  obtain ⟨header, payload⟩ := encoded
  cases payload with
  | none =>
    simp only [writeFrame, Encoded.bytes, Option.getD_none, List.append_nil]
    rcases sink.write header with ⟨_ | _, next⟩ <;> rfl
  | some payload => exact (write_append header payload sink).symm

theorem writeFrame_of_room {sink : Sink} {encoded : Encoded}
    (room : sink.written.length + encoded.bytes.length ≤ sink.capacity) :
    sink.writeFrame encoded =
      (.ok (), { sink with written := sink.written ++ encoded.bytes }) := by
  rw [writeFrame_eq, write_of_room room]

/-- Writes requests with their ids in turn, up to the first that fails. -/
def writeRequests : List (Message Request) → Sink → Except Fault Unit × Sink
  | [], sink => (.ok (), sink)
  | message :: messages, sink =>
    match sink.writeRequest message.id message.packet with
    | (.error fault, next) => (.error fault, next)
    | (.ok (), next) => writeRequests messages next

/-- Where there is room for all, the frames are written one behind the other. -/
theorem writeRequests_of_room {messages : List (Message Request)} {sink : Sink}
    (room : sink.written.length +
      (messages.map fun message => (message.packet.encode message.id).bytes).flatten.length ≤
        sink.capacity) :
    sink.writeRequests messages = (.ok (), { sink with written := sink.written ++
      (messages.map fun message => (message.packet.encode message.id).bytes).flatten }) := by
  induction messages generalizing sink with
  | nil => simp [writeRequests]
  | cons message messages ih =>
    simp only [List.map_cons, List.flatten_cons, List.length_append] at room
    have first : sink.writeRequest message.id message.packet = (.ok (), { sink with
        written := sink.written ++ (message.packet.encode message.id).bytes }) :=
      writeFrame_of_room (by omega)
    rw [writeRequests, first]
    simp only [List.map_cons, List.flatten_cons, ← List.append_assoc]
    apply ih
    simp only [List.length_append]
    omega

end Sink

/-- What is read of a request that was sent. -/
def Message.returned (registry : Registry) (message : Message Request) : Message Request where
  id := if message.packet.kind = .init then 0 else message.id
  packet := message.packet.canonical registry

/-- A packet is admitted when its frame is no longer than the limits have it. -/
theorem Frame.admits_assemble {limits : Limits} {code : TypeCode} {id : UInt32}
    {fields bulk : Bytes}
    (within : (assemble code id fields bulk).bytes.length ≤ 4 + limits.maxPacketLength.toNat) :
    limits.Admits (assemble code id fields bulk).bytes := by
  rw [bytes_assemble, List.length_append, Bytes.length_ofWord32] at within
  have bound := limits.maxPacketLength.toNat_lt
  have counted := Bytes.lengthWord_toNat
    (Nat.lt_of_le_of_lt (Nat.le_of_add_le_add_left within) bound)
  rw [bytes_assemble]
  refine ⟨_, _, rfl, counted, ?_⟩
  rw [UInt32.le_iff_toNat_le, counted]
  exact Nat.le_of_add_le_add_left within

theorem Request.admits_encode {limits : Limits} {request : Request} {id : UInt32}
    (within : (request.encode id).bytes.length ≤ 4 + limits.maxPacketLength.toNat) :
    limits.Admits (request.encode id).bytes :=
  Frame.admits_assemble within

theorem Response.admits_encode {limits : Limits} {response : Response} {id : UInt32}
    (within : (response.encode id).bytes.length ≤ 4 + limits.maxPacketLength.toNat) :
    limits.Admits (response.encode id).bytes :=
  Frame.admits_assemble within

/-- Frames on a stream are kept apart, whatever is in them: as many calls as there are frames give
what the frames are one by one and leave nothing, and requests that were written in turn are read in
turn. -/
theorem Source.run_flatten (limits : Limits) (registry : Registry) :
    (∀ (calls : List Call) (frames : List Bytes), (∀ frame ∈ frames, limits.Admits frame) →
      calls.length = frames.length →
        (run limits registry calls frames.flatten).map Prod.fst =
            List.zipWith (Call.decode registry) calls frames ∧
          after limits registry calls frames.flatten = [] ∧
          ∀ next, run limits registry (calls ++ [next]) frames.flatten =
            run limits registry calls frames.flatten ++ [(.error endInLength, [])]) ∧
    ∀ (messages : List (Message Request)) (capacity : Nat),
      (∀ message ∈ messages, message.packet.Suits registry ∧
        (message.packet.encode message.id).bytes.length ≤ 4 + limits.maxPacketLength.toNat) →
      (messages.map fun message => (message.packet.encode message.id).bytes).flatten.length ≤
        capacity →
        ∃ stream, Sink.writeRequests messages { capacity } =
            (.ok (), { capacity, written := stream }) ∧
          (run limits registry (messages.map fun _ => .request) stream).map Prod.fst =
            messages.map (fun message => .ok (.request (message.returned registry))) ∧
          after limits registry (messages.map fun _ => .request) stream = [] ∧
          ∀ message ∈ messages, ((message.returned registry).packet == message.packet) = true := by
  constructor
  · intro calls frames admitted same
    obtain ⟨items, rest⟩ := run_flatten_append registry admitted same []
    rw [List.append_nil] at items rest
    refine ⟨items, rest, ?_⟩
    intro next
    rw [run_append, rest, run_cons, Call.run_nil]
    rfl
  · intro messages capacity good room
    refine ⟨_, Sink.writeRequests_of_room (by simpa using room), ?_⟩
    have admitted : ∀ frame ∈ messages.map fun message =>
        (message.packet.encode message.id).bytes, limits.Admits frame := by
      intro frame member
      obtain ⟨message, isMember, rfl⟩ := List.mem_map.1 member
      exact Request.admits_encode (good message isMember).2
    have same : (messages.map fun _ => Call.request).length =
        (messages.map fun message => (message.packet.encode message.id).bytes).length := by
      rw [List.length_map, List.length_map]
    obtain ⟨items, rest⟩ := run_flatten_append registry admitted same []
    rw [List.append_nil] at items rest
    refine ⟨?_, rest, fun message _ => message.packet.canonical_beq registry⟩
    rw [List.nil_append, items, List.zipWith_map, List.zipWith_self]
    apply List.map_congr_left
    intro message member
    obtain ⟨suits, within⟩ := good message member
    have bound := limits.maxPacketLength.toNat_lt
    rw [Call.decode, Request.decode_bytes_encode suits (by omega)]
    rfl

/-- An empty frame in front of a good one, and two requests of which the first carries no id. -/
theorem Source.run_flatten_sample :
    ((run {} .initial [.request, .request] [0, 0, 0, 0, 0, 0, 0, 9, 4, 0, 0, 0, 1, 0, 0, 0, 0]).map
        Prod.fst = [.error .short, .ok (.request { id := 1, packet := .onHandle .close [] })] ∧
      after {} .initial [.request, .request]
        [0, 0, 0, 0, 0, 0, 0, 9, 4, 0, 0, 0, 1, 0, 0, 0, 0] = []) ∧
    ∃ stream, Sink.writeRequests
        [{ id := 7, packet := .init 3 [] }, { id := 8, packet := .write [1] 0 [2] }]
        { capacity := 99 } = (.ok (), { capacity := 99, written := stream }) ∧
      (run {} .initial [.request, .request] stream).map Prod.fst =
        [.ok (.request { id := 0, packet := .init 3 [] }),
          .ok (.request { id := 8, packet := .write [1] 0 [2] })] := by
  have admitted : ∀ frame ∈ [[0, 0, 0, 0], [0, 0, 0, 9, 4, 0, 0, 0, 1, 0, 0, 0, 0]],
      Limits.Admits {} frame := by
    intro frame member
    simp only [List.mem_cons, List.not_mem_nil, or_false] at member
    rcases member with rfl | rfl
    · exact ⟨0, [], rfl, rfl, by decide⟩
    · exact ⟨9, _, rfl, rfl, by decide⟩
  have good : ∀ message ∈
      [Message.mk 7 (Request.init 3 []), Message.mk 8 (Request.write [1] 0 [2])],
      message.packet.Suits .initial ∧ (message.packet.encode message.id).bytes.length ≤
        4 + (34000 : UInt32).toNat := by
    intro message member
    simp only [List.mem_cons, List.not_mem_nil, or_false] at member
    rcases member with rfl | rfl
    · exact ⟨trivial, by decide⟩
    · exact ⟨trivial, by decide⟩
  have read := (run_flatten {} .initial).1 [.request, .request] _ admitted rfl
  obtain ⟨stream, taken, items, -⟩ := (run_flatten {} .initial).2 _ 99 good (by decide)
  exact ⟨⟨read.1, read.2.1⟩, stream, taken, items⟩

end SftpWire
