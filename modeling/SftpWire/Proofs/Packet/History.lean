import SftpWire.Packet.Open
import SftpWire.Proofs.Extension.Registry
import SftpWire.Proofs.Packet.Extended

/-!
Registries whose payloads are of any types, and what their history comes to. `decode_opened` says
that a registry of layouts is one of these. A registry bears on a frame only by what it has for the
name in it (`decode_congr`). Main statement: `decode_of_history`, which says what any history of
registrations does to any frame.
-/

namespace SftpWire.OpenRegistry

variable {π : Type} {box : Payload → π} {registry registry' : OpenRegistry π}
  {bytes name rest : Bytes} {id : UInt32}

theorem decode_of_frame {frame : Frame} (isFrame : Frame.decode bytes = .ok frame) :
    registry.decode box bytes = registry.ofFrame box frame := by
  rw [decode, isFrame]
  rfl

/-- What comes of the frame of an extended request: what is made of the bytes behind the name. -/
theorem decode_extended (isExtended : Request.IsExtended bytes id name rest) :
    registry.decode box bytes =
      (registry.resolve box name rest).map fun payload =>
        { id, packet := .extended name payload } := by
  have named := Reader.run_string_ofString isExtended.length_name_lt rest
  rw [decode_of_frame isExtended.decode_frame]
  simp only [ofFrame, if_true, named]

/-- A registry bears on bytes only by what it has for the name that they hold, if they are the frame
of an extended request. -/
theorem decode_congr
    (same : ∀ id name rest, Request.IsExtended bytes id name rest →
      registry.resolve box name = registry'.resolve box name) :
    registry.decode box bytes = registry'.decode box bytes := by
  cases isFrame : Frame.decode bytes with
  | error fault =>
    rw [decode, decode, isFrame]
    rfl
  | ok frame =>
    rw [decode_of_frame isFrame, decode_of_frame isFrame]
    by_cases code : frame.code = Kind.extended.code
    · simp only [ofFrame, if_pos code]
      cases named : Reader.string.run frame.body with
      | short left => rfl
      | done name rest =>
        simp only [same _ _ _ (Request.isExtended_of_decode isFrame code named)]
    · simp only [ofFrame, if_neg code]

/-! ## Registries of layouts -/

theorem opened_registerAll (box : Payload → π) (registry : Registry)
    (registrations : List (String × PayloadKind)) :
    (registry.registerAll registrations).opened box =
      (registry.opened box).registerAll
        (registrations.map fun entry => (entry.1, entry.2.maker box)) := by
  induction registrations generalizing registry with
  | nil => rfl
  | cons entry registrations ih => exact ih (registry.register entry.1 entry.2)

theorem resolve_opened (box : Payload → π) (registry : Registry) (name : Bytes) :
    (registry.opened box).resolve box name = (registry.resolve name).maker box := by
  have found : Registry.lookup (registry.opened box).entries name =
      (registry.find? name).map (PayloadKind.maker box) := by
    simp only [Registry.lookup, Registry.find?, Registry.opened, List.find?_map, Option.map_map,
      Function.comp_def]
  rw [resolve, found, Option.getD_map, Registry.resolve]

/-- What is registered has no say in requests of the other kinds. -/
theorem ofFrame_request {frame : Frame} (other : frame.code ≠ Kind.extended.code)
    (registry : Registry) : Request.ofFrame registry frame = Request.ofFrame .initial frame := by
  have found : (Kind.ofCode? frame.code).bind (Request.reader? registry) =
      (Kind.ofCode? frame.code).bind (Request.reader? .initial) := by
    cases known : Kind.ofCode? frame.code with
    | none => rfl
    | some kind =>
      cases kind <;> first | rfl | exact absurd (Kind.code_of_ofCode? known).symm other
  simp only [Request.ofFrame, Message.ofFrame, found]

/-- A registry of layouts is an open one, and with that the same requests are read. -/
theorem decode_opened (box : Payload → π) (registry : Registry) (bytes : Bytes) :
    (registry.opened box).decode box bytes =
      (Request.decode registry bytes).map fun message =>
        { id := message.id, packet := message.packet.opened box } := by
  cases isFrame : Frame.decode bytes with
  | error fault =>
    rw [decode, Request.decode, isFrame]
    rfl
  | ok frame =>
    rw [decode_of_frame isFrame, Request.decode_of_frame isFrame]
    by_cases code : frame.code = Kind.extended.code
    · rw [Request.ofFrame_extended registry code]
      simp only [ofFrame, if_pos code, Request.extendedReader, Reader.run_bind]
      cases Reader.string.run frame.body with
      | short left => rfl
      | done name rest =>
        simp only [resolve_opened, PayloadKind.maker, Outcome.bind_done, Reader.run_pure]
        cases (registry.resolve name).reader.run rest <;> rfl
    · simp only [ofFrame, if_neg code, ofFrame_request code registry]
      cases read : Request.ofFrame .initial frame with
      | error fault => rfl
      | ok message =>
        have sameCode := ((Request.dispatches .initial).ofFrame_eq_ok_iff.1 read).1
        have unboxed : message.packet.opened box = .closed message.packet := by
          cases isPacket : message.packet with
          | extended name payload =>
            rw [isPacket] at sameCode
            exact absurd sameCode code
          | _ => rfl
        simp only [Except.map, unboxed]

/-! ## Histories -/

/-- What makes the payloads of the names that are known from the start. -/
def known (box : Payload → π) : List (String × PayloadMaker π) :=
  Registry.builtin.map fun entry => (entry.1, entry.2.maker box)

theorem entries_registerAll (registry : OpenRegistry π)
    (registrations : List (String × PayloadMaker π)) :
    (registry.registerAll registrations).entries = registrations.reverse ++ registry.entries := by
  induction registrations generalizing registry with
  | nil => rfl
  | cons entry registrations ih =>
    have step : registry.registerAll (entry :: registrations) =
        (registry.register entry.1 entry.2).registerAll registrations := rfl
    rw [step, ih, List.reverse_cons, List.append_assoc]
    rfl

theorem entries_initial (box : Payload → π) : (Registry.initial.opened box).entries = known box :=
  rfl

theorem known_nodup (box : Payload → π) : ((known box).map Prod.fst).Nodup := by
  have names : (known box).map Prod.fst = Registry.builtin.map Prod.fst := by
    rw [known, List.map_map]
    rfl
  rw [names]
  decide

/-- What stands under a name after registrations is what the rule says. -/
theorem resolves_iff {registrations : List (String × PayloadMaker π)} {maker : PayloadMaker π} :
    Registry.Resolves (known box) (PayloadKind.raw.maker box) registrations name maker ↔
      ((Registry.initial.opened box).registerAll registrations).resolve box name = maker := by
  rw [Registry.resolves_iff (known_nodup box), resolve, entries_registerAll, entries_initial]

theorem resolve_register_of_ne {text : String} {maker : PayloadMaker π}
    (other : Utf8.ofString text ≠ name) :
    (registry.register text maker).resolve box name = registry.resolve box name := by
  rw [resolve, register, Registry.lookup_cons_of_ne other, resolve]

/-- What a history of registrations comes to, whatever is registered. An extended request is read by
what its name was last registered with, else in the layout that the name has from the start, else as
bytes, which cannot fail; a name that is no text is never registered. A registration changes nothing
but for requests of its name, and what does not count for a name in the end counts for nothing.
Where layouts are registered, the requests are those that the registry of layouts gives. -/
theorem decode_of_history (box : Payload → π) :
    (∀ (registrations : List (String × PayloadMaker π)) (bytes : Bytes) (id : UInt32)
      (name rest : Bytes), Request.IsExtended bytes id name rest →
        (∃ maker, Registry.Resolves (known box) (PayloadKind.raw.maker box) registrations name
          maker) ∧
        (∀ maker, Registry.Resolves (known box) (PayloadKind.raw.maker box) registrations name
          maker →
            decode box ((Registry.initial.opened box).registerAll registrations) bytes =
              (maker rest).map fun payload => { id, packet := .extended name payload }) ∧
        ((Registry.Absent registrations name ∧ Registry.Absent Registry.builtin name) ∨
          Utf8.isValid name = false →
            decode box ((Registry.initial.opened box).registerAll registrations) bytes =
              .ok { id, packet := .extended name (box (.raw rest)) })) ∧
    (∀ (registry : OpenRegistry π) (text : String) (maker : PayloadMaker π) (bytes : Bytes),
      (∀ id rest, ¬ Request.IsExtended bytes id (Utf8.ofString text) rest) →
        decode box (registry.register text maker) bytes = decode box registry bytes) ∧
    (∀ registrations registrations' : List (String × PayloadMaker π),
      (∀ text maker, Registry.Latest registrations text maker ↔
        Registry.Latest registrations' text maker) →
        ∀ bytes, decode box ((Registry.initial.opened box).registerAll registrations) bytes =
          decode box ((Registry.initial.opened box).registerAll registrations') bytes) ∧
    ∀ (registrations : List (String × PayloadKind)) (bytes : Bytes),
      decode box ((Registry.initial.opened box).registerAll
          (registrations.map fun entry => (entry.1, entry.2.maker box))) bytes =
        (Request.decode (Registry.initial.registerAll registrations) bytes).map fun message =>
          { id := message.id, packet := message.packet.opened box } := by
  refine ⟨?_, ?_, ?_, ?_⟩
  · intro registrations bytes id name rest isExtended
    have absent_known (unlisted : Registry.Absent Registry.builtin name) :
        Registry.Absent (known box) name := by
      intro entry member
      obtain ⟨named, listed, rfl⟩ := List.mem_map.1 member
      exact unlisted named listed
    refine ⟨⟨_, resolves_iff.2 rfl⟩, ?_, ?_⟩
    · intro maker resolves
      rw [decode_extended isExtended, resolves_iff.1 resolves]
    · intro unknown
      have resolves : Registry.Resolves (known box) (PayloadKind.raw.maker box) registrations name
          (PayloadKind.raw.maker box) := by
        rcases unknown with ⟨absent, unlisted⟩ | invalid
        · exact .unknown absent (absent_known unlisted)
        · exact .unknown (Registry.absent_of_not_isValid _ invalid)
            (Registry.absent_of_not_isValid _ invalid)
      rw [decode_extended isExtended, resolves_iff.1 resolves]
      rfl
  · intro registry text maker bytes notNamed
    apply decode_congr
    intro id name rest isExtended
    apply resolve_register_of_ne
    rintro rfl
    exact notNamed id rest isExtended
  · intro registrations registrations' same bytes
    apply decode_congr
    intro _ name _ _
    rw [resolve, resolve, entries_registerAll, entries_registerAll, Registry.lookup_append,
      Registry.lookup_append, Registry.lookup_reverse_congr same]
  · intro registrations bytes
    rw [← opened_registerAll, decode_opened]

/-- What makes payloads that are one word, of a type that has no such payloads of its own. -/
def wordMaker : PayloadMaker (Payload ⊕ UInt32) :=
  fun rest => (Reader.word32.run rest).toExcept.map .inr

/-- A name that is registered twice, in one request of that name: after both registrations, after
one of another name, and with the first of the two left out. -/
theorem decode_of_history_sample :
    decode .inl ((Registry.initial.opened .inl).registerAll
          [("a", PayloadKind.fsync.maker .inl), ("a", wordMaker)])
        [0, 0, 0, 14, 200, 0, 0, 0, 9, 0, 0, 0, 1, 0x61, 0, 0, 0, 7] =
      .ok { id := 9, packet := .extended [0x61] (.inr 7) } ∧
    decode .inl ((Registry.initial.opened .inl).register "b" wordMaker)
        [0, 0, 0, 14, 200, 0, 0, 0, 9, 0, 0, 0, 1, 0x61, 0, 0, 0, 7] =
      .ok { id := 9, packet := .extended [0x61] (.inl (.raw [0, 0, 0, 7])) } ∧
    decode .inl ((Registry.initial.opened .inl).registerAll [("a", wordMaker)])
        [0, 0, 0, 14, 200, 0, 0, 0, 9, 0, 0, 0, 1, 0x61, 0, 0, 0, 7] =
      .ok { id := 9, packet := .extended [0x61] (.inr 7) } := by
  have isExtended : Request.IsExtended
      [0, 0, 0, 14, 200, 0, 0, 0, 9, 0, 0, 0, 1, 0x61, 0, 0, 0, 7] 9 [0x61] [0, 0, 0, 7] :=
    ⟨rfl, by decide⟩
  have spelled : Utf8.ofString "a" = [0x61] := by decide
  have latest : Registry.Latest [("a", PayloadKind.fsync.maker .inl), ("a", wordMaker)] "a"
      wordMaker := ⟨[("a", PayloadKind.fsync.maker .inl)], [], rfl, List.not_mem_nil⟩
  have absent : ∀ entry ∈ Registry.builtin, Utf8.ofString entry.1 ≠ [0x61] := by decide
  have notNamed : ∀ id rest, ¬ Request.IsExtended
      [0, 0, 0, 14, 200, 0, 0, 0, 9, 0, 0, 0, 1, 0x61, 0, 0, 0, 7] id (Utf8.ofString "b") rest := by
    intro id rest named
    exact absurd (isExtended.name_eq named) (by decide)
  have again : "a" ∈ [("a", wordMaker)].map Prod.fst := List.mem_singleton.2 rfl
  obtain ⟨rule, passed, overwritten, -⟩ := decode_of_history (Sum.inl : Payload → Payload ⊕ UInt32)
  have last := (rule _ _ _ _ _ isExtended).2.1 wordMaker (.registered spelled latest)
  have before := (rule [] _ _ _ _ isExtended).2.2 (.inl ⟨nofun, absent⟩)
  have same := overwritten [("a", PayloadKind.fsync.maker .inl), ("a", wordMaker)]
    [("a", wordMaker)] (fun _ _ => Registry.latest_cons_iff again)
  exact ⟨last, (passed _ "b" wordMaker _ notNamed).trans before, (same _).symm.trans last⟩

end SftpWire.OpenRegistry
