import SftpWire.Command
import SftpWire.Proofs.Packet.Shape
import SftpWire.Proofs.Stream.Slices
import SftpWire.Proofs.Text.Hex

/-!
Transcripts line by line. What is said about a line depends on nothing but the line (`said`), and
it is said under the number that the line has among all of them (`entries`), so a transcript of two
parts is answered part by part (`entries_append`). A line that holds a frame is answered with what
a reader of a stream makes of that frame (`Agrees`), although the two look at the limit in different
places. Main statement: `run_agrees`.
-/

namespace SftpWire.Transcript

/-- Whether anything is said about a line: it is neither empty nor a remark. -/
def Asks (line : List Char) : Prop :=
  Blank.trim line ≠ [] ∧ (Blank.trim line).head? ≠ some '#'

instance : DecidablePred Asks := fun _ => inferInstanceAs (Decidable (_ ∧ _))

/-- What is said about a line that asks. -/
def said (session : Session) (line : List Char) : String :=
  match Hex.decode (Utf8.encode (Blank.trim line)) with
  | .error fault => complaint session.hidden fault
  | .ok bytes => describe session bytes

/-- What is said about lines, each time with the number of the line among all of them. -/
def entries (session : Session) (lines : List (List Char)) : List (Nat × String) :=
  ((lines.zipIdx 1).filter fun entry => Asks entry.1).map fun entry =>
    (entry.2, said session entry.1)

/-- A text behind a number. -/
def label (entry : Nat × String) : String :=
  s!"{entry.1}: " ++ entry.2

/-- Lines, each with its end. -/
def written (lines : List (List Char)) : Bytes :=
  lines.flatMap fun line => Utf8.encode line ++ [0x0A]

/-- What is said about a frame that is too long. -/
def excess (limits : Limits) (frame : Bytes) : String :=
  s!"frame of {frame.length} bytes exceeds max_packet_length {limits.maxPacketLength.toNat}"

/-- What comes of reading a packet from a stream, said as a transcript says it. -/
def received (session : Session) (stream : Bytes) : String :=
  match session.side with
  | .client =>
    outcome (Request.shape session.hidden)
      (Source.readRequest session.limits session.registry stream).1
  | .server =>
    outcome (Response.shape session.hidden) (Source.readResponse session.limits stream).1

/-- A frame is longer than a reader of a stream takes. -/
def Refused (limits : Limits) (frame : Bytes) : Prop :=
  ∃ length max, (Source.readFrame limits frame).1 = .error (.tooLong length max)

/-- A line is answered with what a reader of a stream makes of a frame. -/
structure Agrees (session : Session) (line : List Char) (frame : Bytes) : Prop where
  asks : Asks line
  excess_iff : said session line = excess session.limits frame ↔ Refused session.limits frame
  received : ¬ Refused session.limits frame → said session line = received session frame

variable {session : Session}

/-! ## Lines and their numbers -/

theorem answer?_eq (session : Session) (number : Nat) (line : List Char) :
    answer? session number line =
      if Asks line then some (label (number, said session line)) else none := by
  have passed : ((Blank.trim line).isEmpty || (Blank.trim line).head? == some '#') = false ↔
      Asks line := by
    simp [Asks]
  by_cases asks : Asks line
  · simp only [if_pos asks, answer?, passed.2 asks, Bool.false_eq_true, if_false]
    rfl
  · have isPassed := eq_true_of_ne_false (mt passed.1 asks)
    simp only [if_neg asks, answer?, isPassed, if_true]

theorem answers_eq (session : Session) (lines : List (List Char)) :
    answers session lines = (entries session lines).map label := by
  simp only [answers, answersFrom, entries, answer?_eq]
  rw [List.map_map, ← List.filterMap_eq_map, List.filterMap_filter]
  simp

/-- The second part of a transcript is answered by itself, under higher numbers. -/
theorem entries_append (session : Session) (first second : List (List Char)) :
    entries session (first ++ second) =
      entries session first ++
        (entries session second).map fun entry => (entry.1 + first.length, entry.2) := by
  have shifted : second.zipIdx (1 + first.length) =
      (second.zipIdx 1).map (Prod.map id (· + first.length)) := by
    rw [List.map_snd_add_zipIdx_eq_zipIdx, Nat.add_comm]
  rw [entries, List.zipIdx_append, shifted, List.filter_append, List.map_append, List.filter_map,
    List.map_map, entries, entries, List.map_map]
  rfl

/-- Nothing is said about an empty line at the end. -/
theorem entries_append_nil (session : Session) (lines : List (List Char)) :
    entries session (lines ++ [[]]) = entries session lines := by
  have none : entries session [[]] = [] := rfl
  rw [entries_append, none, List.map_nil, List.append_nil]

/-! ## The bytes of lines -/

theorem newline_not_mem_encode {line : List Char} (one : '\n' ∉ line) :
    0x0A ∉ Utf8.encode line := by
  intro member
  obtain ⟨c, isChar, isByte⟩ := List.mem_flatMap.1 member
  have number : c.toNat = 10 := by
    have high := Utf8.toNat_of_mem_encodeChar isByte
    rw [show (0x0A : UInt8).toNat = 10 from rfl] at high
    omega
  have isEnd : c = '\n' := by
    rw [← Char.ofNat_toNat c, number]
  exact one (isEnd ▸ isChar)

/-- Lines are cut off what is behind them. -/
theorem splitOn_written {texts : List (List Char)} (one : ∀ line ∈ texts, '\n' ∉ line)
    (behind : Bytes) :
    (written texts ++ behind).splitOn 0x0A = texts.map Utf8.encode ++ behind.splitOn 0x0A := by
  induction texts with
  | nil => rfl
  | cons line texts ih =>
    obtain ⟨first, others⟩ := List.forall_mem_cons.1 one
    have split : written (line :: texts) ++ behind =
        Utf8.encode line ++ 0x0A :: (written texts ++ behind) := by
      simp [written]
    rw [split, List.splitOn_append_cons_self_of_not_mem (newline_not_mem_encode first), ih others]
    simp

theorem lines_written {texts : List (List Char)} (one : ∀ line ∈ texts, '\n' ∉ line) :
    lines (written texts) = texts.map Utf8.encode := by
  have pieces := splitOn_written one []
  rw [List.append_nil, List.splitOn_nil] at pieces
  simp [lines, pieces]

/-- The end of the last line makes no difference, but that the line is lost if it is empty. -/
theorem lines_dropLast_written {texts : List (List Char)} (one : ∀ line ∈ texts, '\n' ∉ line) :
    ∃ kept, lines (written texts).dropLast = kept.map Utf8.encode ∧
      (kept = texts ∨ kept ++ [[]] = texts) := by
  rcases List.eq_nil_or_concat texts with rfl | ⟨front, last, rfl⟩
  · exact ⟨[], rfl, .inl rfl⟩
  · simp only [List.concat_eq_append] at one ⊢
    have cut : (written (front ++ [last])).dropLast = written front ++ Utf8.encode last := by
      simp [written, ← List.append_assoc]
    have inner : ∀ line ∈ front, '\n' ∉ line := fun line member =>
      one line (List.mem_append_left _ member)
    have whole := newline_not_mem_encode (one last (List.mem_append_right _ List.mem_cons_self))
    have pieces := splitOn_written inner (Utf8.encode last)
    rw [List.splitOn_eq_singleton whole] at pieces
    by_cases empty : last = []
    · have none : Utf8.encode last = [] := by
        rw [empty]
        rfl
      rw [none, List.append_nil] at pieces cut
      exact ⟨front, by simp [lines, cut, pieces], .inr (by rw [empty])⟩
    · have some : Utf8.encode last ≠ [] := fun isNil => empty <| by
        rw [← Utf8.lossy_encode last, isNil]
        rfl
      exact ⟨front ++ [last], by simp [lines, cut, pieces, some], .inl rfl⟩

theorem run_of_lines {input : Bytes} {texts : List (List Char)}
    (isText : lines input = texts.map Utf8.encode) :
    run session input = { answers := answers session texts, complete := true } := by
  have decoded : (lines input).map Utf8.decode? = texts.map some := by
    rw [isText, List.map_map]
    exact List.map_congr_left fun text _ => Utf8.decode?_encode text
  have all : (texts.map some ++ []).takeWhile Option.isSome = texts.map some ++ [] :=
    List.takeWhile_append_of_pos (by simp)
  rw [List.append_nil] at all
  simp [run, decoded, all, List.filterMap_map]

/-- The answers of a run are those of its lines, whether the last has its end or not. -/
theorem run_written {input : Bytes} {texts : List (List Char)}
    (one : ∀ line ∈ texts, '\n' ∉ line)
    (given : input = written texts ∨ input = (written texts).dropLast) :
    run session input =
      { answers := (entries session texts).map label, complete := true } := by
  rcases given with rfl | rfl
  · rw [run_of_lines (lines_written one), answers_eq]
  · obtain ⟨kept, isText, rfl | rfl⟩ := lines_dropLast_written one
    · rw [run_of_lines isText, answers_eq]
    · rw [run_of_lines isText, answers_eq, entries_append_nil]

/-! ## What is said stands on one line -/

theorem legible_complaint {hidden : Char → Bool} (covers : Quoted.Covers hidden)
    (fault : Hex.Fault) : Legible (complaint hidden fault) := by
  cases fault with
  | oddLength =>
    show Legible "invalid hex: Odd number of digits"
    simp [Legible]
  | notDigit byte index =>
    have marks : Legible "invalid hex: Invalid character " ∧ Legible " at position " := by
      simp [Legible]
    have quoted : Legible (String.ofList (Quoted.singleBy hidden (Char.ofNat byte.toNat))) :=
      legible_ofList.2 fun _ => Quoted.le_toNat_of_mem_singleBy covers
    exact legible_append.2 ⟨legible_append.2 ⟨marks.1, quoted⟩,
      legible_append.2 ⟨marks.2, legible_repr index⟩⟩

theorem legible_outcome {α : Type} {shape : α → String} (shapes : ∀ packet, Legible (shape packet))
    {result : Except Fault (Message α)}
    (failures : ∀ fault, result = .error fault → Legible fault.message) :
    Legible (outcome shape result) := by
  cases result with
  | ok message =>
    have marks : Legible "id=" ∧ Legible " " := by simp [Legible]
    show Legible (s!"id={message.id.toNat} " ++ shape message.packet)
    simp [marks, shapes]
  | error fault => exact failures fault rfl

theorem legible_excess (limits : Limits) (frame : Bytes) : Legible (excess limits frame) := by
  have marks : Legible "frame of " ∧ Legible " bytes exceeds max_packet_length " := by
    simp [Legible]
  simp [excess, marks]

theorem legible_describe (covers : Quoted.Covers session.hidden) (bytes : Bytes) :
    Legible (describe session bytes) := by
  rw [describe]
  split
  · exact legible_excess session.limits bytes
  · split
    · exact legible_outcome (Request.legible_shape covers) fun _ => Request.legible_message
    · exact legible_outcome (Response.legible_shape covers) fun _ => Response.legible_message

theorem legible_said (covers : Quoted.Covers session.hidden) (line : List Char) :
    Legible (said session line) := by
  rw [said]
  split
  · exact legible_complaint covers _
  · exact legible_describe covers _

theorem legible_label (number : Nat) {text : String} (legible : Legible text) :
    Legible (label (number, text)) := by
  have mark : Legible ": " := by simp [Legible]
  simp [label, mark, legible]

/-- No answer has a byte below the blank in it, so none has the end of a line. -/
theorem le_of_mem_entry (covers : Quoted.Covers session.hidden) {texts : List (List Char)}
    {entry : Nat × String} (member : entry ∈ entries session texts) {b : UInt8}
    (isByte : b ∈ Utf8.ofString (label entry)) : 0x20 ≤ b := by
  obtain ⟨numbered, -, rfl⟩ := List.mem_map.1 member
  have legible := legible_label numbered.2 (legible_said covers numbered.1)
  exact legible.le_of_mem_ofString isByte

/-! ## Lines that hold a frame -/

theorem head?_display (report : Status) : report.display.toList.head? = some 's' := by
  rw [Status.display]
  split
  · simp
  · simp

/-- What is said of a failure begins with the name of the protocol. -/
theorem head?_message (fault : Fault) : fault.message.toList.head? = some 's' := by
  delta Fault.message
  cases fault with
  | status report => exact head?_display report
  | _ => simp

/-- What is said of packets and failures begins otherwise than what is said of a frame that is too
long. -/
theorem excess_ne_outcome {α : Type} (shape : α → String) (limits : Limits) (frame : Bytes)
    (result : Except Fault (Message α)) : excess limits frame ≠ outcome shape result := by
  intro same
  have begins : (excess limits frame).toList.head? = some 'f' := by
    simp [excess]
  rw [same] at begins
  cases result with
  | ok message =>
    have other : (outcome shape (.ok message)).toList.head? = some 'i' := by
      show (s!"id={message.id.toNat} " ++ shape message.packet).toList.head? = _
      simp
    simp [other] at begins
  | error fault =>
    have other : (outcome shape (.error fault)).toList.head? = some 's' := head?_message fault
    simp [other] at begins

theorem excess_ne_received (session : Session) (frame : Bytes) :
    excess session.limits frame ≠ received session frame := by
  rw [received]
  split
  · exact excess_ne_outcome _ _ _ _
  · exact excess_ne_outcome _ _ _ _

section

variable {line : List Char} {length : UInt32} {content : Bytes}

theorem said_of_decode {bytes : Bytes} (decoded : Hex.decode (Utf8.encode (Blank.trim line)) =
    .ok bytes) : said session line = describe session bytes := by
  rw [said, decoded]

/-- What counts is the number of bytes behind the length, and that is what the length says. -/
theorem describe_of_lt (counted : length.toNat = content.length)
    (beyond : session.limits.maxPacketLength < length) :
    describe session (Bytes.ofWord32 length ++ content) =
      excess session.limits (Bytes.ofWord32 length ++ content) := by
  have more := UInt32.lt_iff_toNat_lt.1 beyond
  have tooMany : session.limits.maxPacketLength.toNat <
      (Bytes.ofWord32 length ++ content).length - 4 := by
    rw [List.length_append, Bytes.length_ofWord32]
    omega
  rw [describe, if_pos tooMany]
  rfl

theorem describe_of_le (counted : length.toNat = content.length)
    (within : length ≤ session.limits.maxPacketLength) :
    describe session (Bytes.ofWord32 length ++ content) =
      received session (Bytes.ofWord32 length ++ content) := by
  have admits : session.limits.Admits (Bytes.ofWord32 length ++ content) :=
    ⟨length, content, rfl, counted, within⟩
  have fits := UInt32.le_iff_toNat_le.1 within
  have few : ¬ session.limits.maxPacketLength.toNat <
      (Bytes.ofWord32 length ++ content).length - 4 := by
    rw [List.length_append, Bytes.length_ofWord32]
    omega
  have request := @Source.readRequest_append _ session.registry _ admits []
  have response := Source.readResponse_append admits []
  rw [List.append_nil] at request response
  cases side : session.side with
  | client => simp only [describe, if_neg few, received, side, request]
  | server => simp only [describe, if_neg few, received, side, response]

/-- A reader of a stream takes no frame that is longer than its limit, and every other. -/
theorem refused_iff (limits : Limits) (counted : length.toNat = content.length) :
    Refused limits (Bytes.ofWord32 length ++ content) ↔ limits.maxPacketLength < length := by
  constructor
  · rintro ⟨declared, max, refused⟩
    refine Decidable.byContradiction fun within => ?_
    have admits : limits.Admits (Bytes.ofWord32 length ++ content) :=
      ⟨length, content, rfl, counted, UInt32.not_lt.1 within⟩
    have read := Source.readFrame_append admits []
    rw [List.append_nil] at read
    rw [read] at refused
    rcases admits.decode_frame with short | ⟨frame, isFrame⟩
    · rw [short] at refused
      cases refused
    · rw [isFrame] at refused
      cases refused
  · intro beyond
    refine ⟨length.toNat, limits.maxPacketLength.toNat, ?_⟩
    rw [Source.readFrame, Reader.run_word32_ofWord32]
    simp only [if_pos beyond]

/-- The digits of a frame are answered with what a reader of a stream makes of the frame. -/
theorem agrees (session : Session) {before digits after : List Char}
    (front : ∀ c ∈ before, Blank.isBlank c = true) (behind : ∀ c ∈ after, Blank.isBlank c = true)
    (spells : Hex.Spells digits (Bytes.ofWord32 length ++ content))
    (counted : length.toNat = content.length) :
    Agrees session (before ++ digits ++ after) (Bytes.ofWord32 length ++ content) := by
  have trimmed := spells.trim_append front behind
  have isSaid : said session (before ++ digits ++ after) =
      describe session (Bytes.ofWord32 length ++ content) := by
    refine said_of_decode ?_
    rw [trimmed]
    exact spells.decode_digits
  have refused := refused_iff session.limits counted
  refine { asks := ?asks, excess_iff := ?excess, received := ?received }
  case asks =>
    rw [Asks, trimmed]
    constructor
    · rintro rfl
      have none := spells.length_encode
      rw [List.length_append, Bytes.length_ofWord32, show Utf8.encode [] = [] from rfl,
        List.length_nil] at none
      omega
    · intro remark
      exact (spells.solid '#' (List.mem_of_head? remark)).2 rfl
  case excess =>
    rw [refused, isSaid]
    constructor
    · intro same
      refine Decidable.byContradiction fun within => ?_
      rw [describe_of_le counted (UInt32.not_lt.1 within)] at same
      exact excess_ne_received session _ same.symm
    · exact describe_of_lt counted
  case received =>
    intro taken
    rw [refused] at taken
    rw [isSaid, describe_of_le counted (UInt32.not_lt.1 taken)]

end

/-! ## Runs -/

/-- A run says one line for each line that asks, under its number and with nothing in it below the
blank; what is said of a later part of the input is said of it alone, under higher numbers; and the
digits of a frame are answered with what a reader of a stream with the same limits makes of it. All
of this holds whichever characters are escaped by number, if only those before the blank are. -/
theorem run_agrees (session : Session) :
    (∀ (args : List String) (file : Option Bytes) (input : Bytes) (texts : List (List Char)),
      Command.prepare args file session.hidden = .ok session → (∀ line ∈ texts, '\n' ∉ line) →
      input = written texts ∨ input = (written texts).dropLast →
      Command.run args file input session.hidden =
        { code := 0, lines := (entries session texts).map label }) ∧
    (Quoted.Covers session.hidden →
      ∀ (texts : List (List Char)), ∀ entry ∈ entries session texts,
        ∀ b ∈ Utf8.ofString (label entry), 0x20 ≤ b) ∧
    (∀ first second : List (List Char),
      entries session (first ++ second) = entries session first ++
        (entries session second).map fun entry => (entry.1 + first.length, entry.2)) ∧
    ∀ (before digits after : List Char) (length : UInt32) (content : Bytes),
      (∀ c ∈ before, Blank.isBlank c = true) → (∀ c ∈ after, Blank.isBlank c = true) →
      Hex.Spells digits (Bytes.ofWord32 length ++ content) → length.toNat = content.length →
      Agrees session (before ++ digits ++ after) (Bytes.ofWord32 length ++ content) := by
  refine ⟨?ran, ?bytes, entries_append session, ?frames⟩
  case ran =>
    intro args file input texts prepared one given
    rw [Command.run, prepared]
    simp only [Command.finish, run_written one given, if_true]
  case bytes =>
    intro covers texts entry member b isByte
    exact le_of_mem_entry covers member isByte
  case frames =>
    intro before digits after length content front behind spells counted
    exact agrees session front behind spells counted

/-- A remark is passed over and the line behind it is the second; a line that is no frame is
answered in one line; a frame with blanks around its digits is one that a stream can hold, here with
an accent shown as it is. -/
theorem run_agrees_sample :
    Command.run ["request"] none (written [['#'], ['0']]) =
        { code := 0, lines := ["2: invalid hex: Odd number of digits"] } ∧
      (∀ entry ∈ entries { side := .client } [['\x07', '\x07']],
        ∀ b ∈ Utf8.ofString (label entry), 0x20 ≤ b) ∧
      Agrees { side := .client, hidden := fun c => c.toNat < 0x20 }
        [' ', '0', '0', '0', '0', '0', '0', '0', '1', '0', 'A', '\t'] [0, 0, 0, 1, 10] := by
  obtain ⟨ran, bytes, -, -⟩ := run_agrees { side := .client }
  obtain ⟨-, -, -, frames⟩ := run_agrees { side := .client, hidden := fun c => c.toNat < 0x20 }
  have spells : Hex.Spells ['0', '0', '0', '0', '0', '0', '0', '1', '0', 'A']
      (Bytes.ofWord32 1 ++ [10]) :=
    .cons (.inl rfl) (.inl rfl) <| .cons (.inl rfl) (.inl rfl) <| .cons (.inl rfl) (.inl rfl) <|
      .cons (.inl rfl) (.inl rfl) <| .cons (.inl rfl) (.inr rfl) .nil
  exact ⟨ran ["request"] none _ [['#'], ['0']] rfl (by decide) (.inl rfl),
    bytes Quoted.covers_isHidden [['\x07', '\x07']],
    frames [' '] _ ['\t'] 1 [10] (by simp [Blank.isBlank]) (by simp [Blank.isBlank]) spells rfl⟩

/-- Paths that are one character each, a control character beyond ASCII and an accent. -/
example :
    answers { side := .client }
        (["0000000b110000000100000002c285", "0000000b110000000100000002cc81"].map String.toList) =
      ["1: id=1 Stat(StatPacket \x7b path: \"\\u\x7b85\x7d\" \x7d)",
       "2: id=1 Stat(StatPacket \x7b path: \"\\u\x7b301\x7d\" \x7d)"] := by
  decide +kernel

end SftpWire.Transcript
