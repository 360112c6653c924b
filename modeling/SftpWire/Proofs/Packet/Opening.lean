import SftpWire.Proofs.Packet.Request
import SftpWire.Proofs.Packet.Response
import SftpWire.Proofs.Wire.Rows

/-!
Packets that open a session. They are a version and extensions, and nothing says how many extensions
there are: those are read until the body is at its end. So a body is accepted exactly when it ends
with an extension (`Opening.read_boundary`, `Opening.read_cut`), and bytes behind it are accepted
exactly when they are extensions, too (`Opening.read_append`). Main statement: `openings_exact`, for
the packets of both sides.
-/

namespace SftpWire

/-! ## Extensions in a row -/

namespace Bytes

/-- A string as far as its length can be counted. -/
def counted (string : Bytes) : Bytes :=
  string.take 4294967295

variable {string : Bytes}

theorem counted_of_length_lt (small : string.length < 4294967296) : counted string = string :=
  List.take_of_length_le (Nat.le_of_lt_succ small)

theorem length_counted_lt (string : Bytes) : (counted string).length < 4294967296 := by
  rw [counted, List.length_take]
  omega

/-- Of a string that is too long, nothing is written but what can be counted. -/
theorem ofString_counted (string : Bytes) : ofString (counted string) = ofString string := by
  by_cases small : string.length < 4294967296
  · rw [counted_of_length_lt small]
  · have length : (counted string).length = 4294967295 := by
      rw [counted, List.length_take]
      omega
    rw [ofString_eq (length_counted_lt string), length, ofString, lengthWord, if_neg small]
    rfl

end Bytes

namespace Extension

/-- An extension as far as its lengths can be counted. -/
def counted (extension : Extension) : Extension where
  name := Bytes.counted extension.name
  data := Bytes.counted extension.data

theorem counted_of_fits {extension : Extension} (fits : layout.Fits extension) :
    extension.counted = extension := by
  rw [counted, Bytes.counted_of_length_lt fits.1, Bytes.counted_of_length_lt fits.2]

theorem fits_counted (extensions : List Extension) :
    ∀ extension ∈ extensions.map counted, layout.Fits extension := by
  intro extension member
  obtain ⟨whole, -, rfl⟩ := List.mem_map.1 member
  exact ⟨Bytes.length_counted_lt whole.name, Bytes.length_counted_lt whole.data⟩

theorem bytes_counted (extension : Extension) : extension.counted.bytes = extension.bytes := by
  simp only [bytes, counted, Bytes.ofString_counted]

theorem flatMap_counted (extensions : List Extension) :
    (extensions.map counted).flatMap layout.write = extensions.flatMap bytes := by
  rw [List.flatMap_map]
  exact congrArg extensions.flatMap (funext bytes_counted)

/-- An extension takes at least the eight bytes of its two lengths. -/
theorem length_bytes_ge (extension : Extension) : 8 ≤ extension.bytes.length := by
  simp only [bytes, List.length_append, Bytes.length_ofString_eq_min]
  omega

theorem drains_iff {bytes : Bytes} {outcome : Outcome (List Extension)} :
    reader.Drains bytes outcome ↔ reader.toEnd.run bytes = outcome :=
  (reader_reads.progresses write_ne_nil).drains_iff

theorem run_toEnd_flatMap (extensions : List Extension) :
    reader.toEnd.run (extensions.flatMap bytes) = .done (extensions.map counted) [] :=
  (reader_reads.run_toEnd_eq_done layout_closed write_ne_nil).2
    ⟨(flatMap_counted extensions).symm, rfl, fits_counted extensions⟩

/-- A row of extensions that is not cut behind one of them runs short. -/
theorem run_toEnd_take {extensions : List Extension} {k : Nat}
    (within : k ≤ (extensions.flatMap bytes).length)
    (inside : ∀ j, k ≠ ((extensions.take j).flatMap bytes).length) :
    ∃ last, reader.toEnd.run ((extensions.flatMap bytes).take k) = .short last := by
  have parts := reader_reads.run_toEnd_take layout_closed write_ne_nil (fits_counted extensions) k
  rw [flatMap_counted] at parts
  refine parts.resolve_left ?_
  rintro ⟨j, front⟩
  rw [← List.map_take, flatMap_counted] at front
  have length := congrArg List.length front
  rw [List.length_take, Nat.min_eq_left within] at length
  exact inside j length

/-- Behind a row of extensions, whatever is no row of extensions runs short. -/
theorem run_toEnd_append_of_ne {extensions : List Extension} {more : Bytes}
    (fit : ∀ extension ∈ extensions, layout.Fits extension)
    (stray : ∀ others : List Extension, more ≠ others.flatMap bytes) :
    ∃ last, reader.toEnd.run (extensions.flatMap bytes ++ more) = .short last := by
  have cases := reader_reads.run_toEnd_append_cases layout_closed write_ne_nil fit more
  refine cases.resolve_left ?_
  rintro ⟨others, row, -⟩
  exact stray others row

end Extension

/-! ## Bodies -/

/-- Reads a version and then extensions to the end. -/
def Reader.opening {α : Type} (packet : UInt32 → List Extension → α) : Reader α := do
  let version ← Reader.word32
  let extensions ← Extension.reader.toEnd
  return packet version extensions

/-- How bodies are read that are a version and extensions to the end. They end where an extension
ends. -/
structure Opening {α : Type} (packet : UInt32 → List Extension → α) (body : α → Bytes)
    (read : Bytes → Except Fault α) : Prop where
  /-- Cut behind one of its extensions, a body holds the version and the extensions up to there. -/
  read_boundary : ∀ (version : UInt32) (extensions : List Extension) (j : Nat),
    read ((body (packet version extensions)).take
        (4 + ((extensions.take j).flatMap Extension.bytes).length)) =
      .ok (packet version ((extensions.take j).map Extension.counted))
  /-- Cut anywhere else, it runs short. -/
  read_cut : ∀ (version : UInt32) (extensions : List Extension) (k : Nat),
    k ≤ (body (packet version extensions)).length →
      (∀ j, k ≠ 4 + ((extensions.take j).flatMap Extension.bytes).length) →
        read ((body (packet version extensions)).take k) = .error .short
  /-- More extensions behind a body, whoever made it, are added to those in it, and any other bytes
  behind it run short. -/
  read_append : ∀ (front : Bytes) (value : α), read front = .ok value →
    ∃ version extensions, value = packet version extensions ∧
      (∀ others : List Extension, read (front ++ others.flatMap Extension.bytes) =
        .ok (packet version (extensions ++ others.map Extension.counted))) ∧
      ∀ more : Bytes, (∀ others : List Extension, more ≠ others.flatMap Extension.bytes) →
        read (front ++ more) = .error .short

namespace Reader

variable {α : Type} {packet : UInt32 → List Extension → α}

theorem run_opening_ofWord32_append (version : UInt32) (rest : Bytes) :
    (opening packet).run (Bytes.ofWord32 version ++ rest) =
      (Extension.reader.toEnd.run rest).bind fun extensions last =>
        .done (packet version extensions) last := by
  simp only [opening, run_bind, run_pure, run_word32_ofWord32, Outcome.bind_done]

theorem run_opening_of_length_lt {bytes : Bytes} (few : bytes.length < 4) :
    (opening packet).run bytes = .short bytes := by
  simp only [opening, run_bind, run_word32_eq_short.2 ⟨few, rfl⟩, Outcome.bind_short]

theorem run_opening_flatMap (version : UInt32) (extensions : List Extension) :
    (opening packet).run (Bytes.ofWord32 version ++ extensions.flatMap Extension.bytes) =
      .done (packet version (extensions.map Extension.counted)) [] := by
  rw [run_opening_ofWord32_append, Extension.run_toEnd_flatMap, Outcome.bind_done]

theorem exists_of_run_opening {bytes rest : Bytes} {value : α}
    (read : (opening packet).run bytes = .done value rest) :
    ∃ version extensions, value = packet version extensions ∧
      bytes = Bytes.ofWord32 version ++ extensions.flatMap Extension.bytes ∧
      ∀ extension ∈ extensions, Extension.layout.Fits extension := by
  simp only [opening, run_bind, run_pure, Outcome.bind_eq_done, run_word32_eq_done,
    Outcome.done.injEq] at read
  obtain ⟨version, middle, rfl, extensions, last, inner, rfl, -⟩ := read
  obtain ⟨rfl, -, fit⟩ := (Extension.reader_reads.run_toEnd_eq_done Extension.layout_closed
    Extension.write_ne_nil).1 inner
  exact ⟨version, extensions, rfl, rfl, fit⟩

/-- It does not matter whether a packet is made of the version and the extensions at once. -/
theorem run_map_opening {β : Type} (make : α → β) (bytes : Bytes) :
    (make <$> opening packet).run bytes =
      (opening fun version extensions => make (packet version extensions)).run bytes := by
  simp only [opening, run_map, run_bind, run_pure, Outcome.bind_assoc, Outcome.bind_done]

theorem take_ofWord32_append (word : UInt32) (rest : Bytes) (k : Nat) :
    (Bytes.ofWord32 word ++ rest).take (4 + k) = Bytes.ofWord32 word ++ rest.take k := by
  rw [← Bytes.length_ofWord32 word, List.take_length_add_append]

/-- Whatever reads bodies in this way ends them with an extension. -/
theorem opening_exact {body : α → Bytes} {read : Bytes → Except Fault α}
    (isBody : ∀ version extensions, body (packet version extensions) =
      Bytes.ofWord32 version ++ extensions.flatMap Extension.bytes)
    (isRead : ∀ bytes, read bytes = ((opening packet).run bytes).toExcept) :
    Opening packet body read where
  read_boundary version extensions j := by
    have split : extensions.flatMap Extension.bytes =
        (extensions.take j).flatMap Extension.bytes ++
          (extensions.drop j).flatMap Extension.bytes := by
      rw [← List.flatMap_append, List.take_append_drop]
    rw [isBody, split, take_ofWord32_append, List.take_left, isRead, run_opening_flatMap]
    rfl
  read_cut version extensions k within inside := by
    rw [isBody, List.length_append, Bytes.length_ofWord32] at within
    rw [isBody, isRead]
    by_cases few : k < 4
    · rw [run_opening_of_length_lt (by rw [List.length_take]; omega)]
      rfl
    · obtain ⟨n, rfl⟩ := Nat.exists_eq_add_of_le (Nat.le_of_not_lt few)
      have within' : n ≤ (extensions.flatMap Extension.bytes).length := by omega
      obtain ⟨last, short⟩ :=
        Extension.run_toEnd_take within' fun j same => inside j (by rw [same])
      rw [take_ofWord32_append, run_opening_ofWord32_append, short]
      rfl
  read_append front value isValue := by
    rw [isRead] at isValue
    cases run : (opening packet).run front with
    | short rest =>
      rw [run] at isValue
      cases isValue
    | done value rest =>
      rw [run] at isValue
      cases isValue
      obtain ⟨version, extensions, rfl, rfl, fit⟩ := exists_of_run_opening run
      have kept : extensions.map Extension.counted = extensions := by
        conv => rhs; rw [← List.map_id extensions]
        exact List.map_congr_left fun extension member => Extension.counted_of_fits (fit _ member)
      refine ⟨version, extensions, rfl, fun others => ?_, fun more stray => ?_⟩
      · rw [isRead, List.append_assoc, ← List.flatMap_append, run_opening_flatMap,
          List.map_append, kept]
        rfl
      · obtain ⟨last, short⟩ := Extension.run_toEnd_append_of_ne fit stray
        rw [isRead, List.append_assoc, run_opening_ofWord32_append, short]
        rfl

end Reader

/-! ## Both sides -/

/-- A frame is read by the reader of its code. -/
theorem Message.ofFrame_of_reader {α : Type} {reader? : Kind → Option (Reader α)}
    {unexpected : TypeCode → Fault} {frame : Frame} {reader : Reader α}
    (found : (Kind.ofCode? frame.code).bind reader? = some reader) :
    ofFrame reader? unexpected frame =
      (((fun packet => { id := frame.id, packet }) <$> reader).run frame.body).toExcept := by
  simp only [ofFrame, found, Reader.run_map]
  cases reader.run frame.body <;> rfl

theorem Request.ofFrame_init (registry : Registry) (id : UInt32) (body : Bytes) :
    ofFrame registry { code := Kind.init.code, id, body } =
      ((Reader.opening fun version extensions =>
        ({ id, packet := .init version extensions } : Message Request)).run body).toExcept := by
  have found : (Kind.ofCode? Kind.init.code).bind (reader? registry) =
      some (Reader.opening Request.init) := rfl
  rw [ofFrame, Message.ofFrame_of_reader found, Reader.run_map_opening]

theorem Request.opening_init (registry : Registry) (id : UInt32) :
    Opening
      (fun version extensions => ({ id, packet := .init version extensions } : Message Request))
      (fun message => message.packet.body)
      (fun body => ofFrame registry { code := Kind.init.code, id, body }) :=
  Reader.opening_exact (fun _ _ => List.append_nil _) (ofFrame_init registry id)

theorem Response.ofFrame_version (id : UInt32) (body : Bytes) :
    ofFrame { code := Kind.version.code, id, body } =
      ((Reader.opening fun v extensions =>
        ({ id, packet := .version v extensions } : Message Response)).run body).toExcept := by
  have found : (Kind.ofCode? Kind.version.code).bind reader? =
      some (Reader.opening Response.version) := rfl
  rw [ofFrame, Message.ofFrame_of_reader found, Reader.run_map_opening]

theorem Response.opening_version (id : UInt32) :
    Opening
      (fun version extensions => ({ id, packet := .version version extensions } : Message Response))
      (fun message => message.packet.body)
      (fun body => ofFrame { code := Kind.version.code, id, body }) :=
  Reader.opening_exact (fun _ _ => List.append_nil _) (ofFrame_version id)

/-- Bodies that open a session, from either side, are accepted exactly when they end with an
extension, and the loop that reads their extensions ends on all bytes. Extensions are given as they
were written, which is as they are unless a string in them is too long to be counted. -/
theorem openings_exact (registry : Registry) (id : UInt32) :
    Opening (fun version extensions => { id, packet := Request.init version extensions })
        (fun message => message.packet.body)
        (fun body => Request.ofFrame registry { code := Kind.init.code, id, body }) ∧
      Opening (fun version extensions => { id, packet := Response.version version extensions })
        (fun message => message.packet.body)
        (fun body => Response.ofFrame { code := Kind.version.code, id, body }) ∧
      (∀ extension : Extension, Extension.layout.Fits extension →
        extension.counted = extension) ∧
      ∀ (bytes : Bytes) (outcome : Outcome (List Extension)),
        Extension.reader.Drains bytes outcome ↔ Extension.reader.toEnd.run bytes = outcome :=
  ⟨Request.opening_init registry id, Response.opening_version id,
    fun _ => Extension.counted_of_fits, fun _ _ => Extension.drains_iff⟩

/-- The whole body of an extension with a longer name than a length can say is accepted, but what it
yields is not that extension. -/
theorem openings_exact_overlong :
    ∃ extension : Extension, extension = ⟨Bytes.overlong, []⟩ ∧
      Request.ofFrame .initial
          { code := Kind.init.code, id := 0,
            body := (Request.init 3 [extension]).body.take
              (4 + (([extension].take 1).flatMap Extension.bytes).length) } ≠
        .ok { id := 0, packet := .init 3 ([extension].take 1) } := by
  refine ⟨⟨Bytes.overlong, []⟩, rfl, fun same => ?_⟩
  have opens := (Request.opening_init .initial 0).read_boundary 3 [⟨Bytes.overlong, []⟩] 1
  have cut := opens.symm.trans same
  simp only [Except.ok.injEq, Message.mk.injEq, Request.init.injEq, true_and] at cut
  have names := congrArg (List.map fun extension : Extension => extension.name.length) cut
  have short := Bytes.length_counted_lt Bytes.overlong
  simp only [List.take_succ_cons, List.take_nil, List.map_cons, List.map_nil, Extension.counted,
    List.cons.injEq, and_true] at names
  rw [names, Bytes.length_overlong] at short
  exact Nat.lt_irrefl _ short

/-- A body that is cut behind its version, one that is cut between the strings of an extension, and
one with an empty string behind its extension. -/
theorem openings_exact_sample :
    Request.ofFrame .initial { code := 1, id := 0, body := [0, 0, 0, 3] } =
        .ok { id := 0, packet := .init 3 [] } ∧
      Request.ofFrame .initial { code := 1, id := 0, body := [0, 0, 0, 3, 0, 0, 0, 1, 7] } =
        .error .short ∧
      Response.ofFrame
          { code := 2, id := 0, body := [0, 0, 0, 3, 0, 0, 0, 1, 7, 0, 0, 0, 0, 0, 0, 0, 0] } =
        .error .short ∧
      (Extension.counted ⟨[7], []⟩ = ⟨[7], []⟩) := by
  obtain ⟨requests, responses, same, -⟩ := openings_exact .initial 0
  have opens := requests.read_boundary 3 [⟨[7], []⟩] 0
  have inside := requests.read_cut 3 [⟨[7], []⟩] 9 (by decide) (by
    rintro (_ | j)
    · decide
    · rw [List.take_succ_cons, List.take_nil]
      decide)
  obtain ⟨_, _, -, -, stray⟩ := responses.read_append
    [0, 0, 0, 3, 0, 0, 0, 1, 7, 0, 0, 0, 0] { id := 0, packet := .version 3 [⟨[7], []⟩] } rfl
  refine ⟨opens, inside, stray [0, 0, 0, 0] ?_, same ⟨[7], []⟩ ⟨by decide, by decide⟩⟩
  rintro (_ | ⟨extension, others⟩) row
  · cases row
  · have least := extension.length_bytes_ge
    have length := congrArg List.length row
    simp only [List.flatMap_cons, List.length_append, List.length_cons, List.length_nil] at length
    omega

end SftpWire
