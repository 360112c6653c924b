import SftpWire.Proofs.Stream.ReadLimit
import SftpWire.Proofs.Toml.Plain
import SftpWire.Settings

/-!
Limits given in a document are those given as numbers. Which of the limits a document gives is said
by what is in its table `codec` (`Gives`); the document then comes to the same as the numbers would,
accepted or refused for the same fault (`limitsBy_of_gives`), whatever else it says. Of the parser
this needs only that no table of the document has a key twice. Whether limits
are accepted is a matter of numbers alone, with no word for them to wrap around in
(`exists_make_eq_ok_iff`).
-/

namespace SftpWire.Settings

open Toml

/-- A key has a word as its value, and is not there if no word is given. -/
def Has (entries : Table) (key : String) (word : Option UInt32) : Prop :=
  ∀ value, (key, value) ∈ entries ↔ ∃ w ∈ word, value = .integer w.toNat

/-- The table `codec` of a document has the given limits under their names, and whatever else. A
document that gives no limits may be without the table. -/
inductive Gives (document : Table) : Option UInt32 → Option UInt32 → Prop
  | table {origin : Origin} {entries : Table} {packet data : Option UInt32}
    (isCodec : ("codec", .table origin entries) ∈ document)
    (hasPacket : Has entries "max_packet_length" packet)
    (hasData : Has entries "max_data_length" data) : Gives document packet data
  | missing (absent : ∀ value, ("codec", value) ∉ document) : Gives document none none

/-- The keys of limits that are given, with their numbers. -/
def given (packet data : Option UInt32) : List (String × Nat) :=
  (packet.toList.map fun w => ("max_packet_length", w.toNat)) ++
    data.toList.map fun w => ("max_data_length", w.toNat)

/-! ## What a document gives -/

theorem word?_toNat (w : UInt32) : word? (.integer w.toNat) = some w := by
  have small := w.toNat_lt
  have fits : (0 : Int) ≤ w.toNat ∧ (w.toNat : Int) < 4294967296 := by omega
  rw [word?, if_pos fits, Int.toNat_natCast, UInt32.ofNat_toNat]

theorem find?_eq_none {table : Table} {key : String} (absent : ∀ value, (key, value) ∉ table) :
    table.find? key = none := by
  cases found : table.find? key with
  | none => rfl
  | some value => exact absurd (Table.mem_of_find? found) (absent value)

theorem field?_eq {entries : Table} (distinct : entries.Distinct) {key : String}
    {word : Option UInt32} (has : Has entries key word) : field? key entries = some word := by
  cases word with
  | none =>
    have absent : entries.find? key = none := by
      refine find?_eq_none fun value member => ?_
      obtain ⟨w, ⟨⟩, -⟩ := (has value).1 member
    rw [field?, absent]
  | some w =>
    have found : entries.find? key = some (.integer w.toNat) :=
      distinct.find?_eq_some_iff.2 ((has _).2 ⟨w, rfl, rfl⟩)
    rw [field?, found]
    exact congrArg (Option.map some) (word?_toNat w)

variable {packet data : Option UInt32} {document : Table}

theorem ofDocument?_eq (distinct : document.Distinct) (gives : Gives document packet data) :
    ofDocument? document = some (Limits.ofOptions packet data) := by
  cases gives with
  | @table origin entries _ _ isCodec hasPacket hasData =>
    have found := distinct.find?_eq_some_iff.2 isCodec
    have inner := Value.distinct_table_iff.1 (distinct.of_find? found)
    rw [ofDocument?, found]
    simp only [ofValue?, field?_eq inner hasPacket, field?_eq inner hasData]
    rfl
  | missing absent =>
    rw [ofDocument?, find?_eq_none absent]
    rfl

/-- A document comes to the same as the limits that it gives, whichever parser takes a text for
it. -/
theorem limitsBy_of_gives {parser : Parser} {text : String}
    (parsed : parser.parse? text = some document) (distinct : document.Distinct)
    (gives : Gives document packet data) : limitsBy parser text = Limits.make packet data := by
  rw [limitsBy, parsed, Option.bind_some, ofDocument?_eq distinct gives]
  rfl

/-! ## What is accepted -/

/-- Limits that are accepted are not changed. -/
theorem eq_of_check {limits checked : Limits} (accepted : limits.check = .ok checked) :
    checked = limits := by
  rw [Limits.check] at accepted
  repeat' split at accepted
  all_goals cases accepted
  rfl

/-- The number of a word, or the usual one where none is given. -/
def number (usual : Nat) (word : Option UInt32) : Nat :=
  word.elim usual UInt32.toNat

theorem toNat_ofOptions (packet data : Option UInt32) :
    (Limits.ofOptions packet data).maxPacketLength.toNat = number 34000 packet ∧
      (Limits.ofOptions packet data).maxDataLength.toNat = number 32768 data := by
  cases packet <;> cases data <;> exact ⟨rfl, rfl⟩

/-- Limits that are accepted are the given ones, or the usual ones. -/
theorem toNat_of_make {limits : Limits} (accepted : Limits.make packet data = .ok limits) :
    limits.maxPacketLength.toNat = number 34000 packet ∧
      limits.maxDataLength.toNat = number 32768 data := by
  rw [eq_of_check accepted]
  exact toNat_ofOptions packet data

/-- Limits are accepted if they permit some data and leave room for what stands before it. -/
theorem exists_make_eq_ok_iff :
    (∃ limits, Limits.make packet data = .ok limits) ↔
      1 ≤ number 32768 data ∧ number 32768 data + 9 ≤ number 34000 packet := by
  have valid := @Limits.check_eq_ok_iff (Limits.ofOptions packet data)
  rw [(toNat_ofOptions packet data).1, (toNat_ofOptions packet data).2] at valid
  constructor
  · rintro ⟨limits, accepted⟩
    have same := eq_of_check accepted
    rw [same] at accepted
    exact valid.1 accepted
  · exact fun enough => ⟨_, valid.2 enough⟩

/-! ## Documents for all limits -/

theorem isBare_packet : IsBare "max_packet_length" :=
  ⟨by decide, List.all_eq_true.1 (by decide +kernel)⟩

theorem isBare_data : IsBare "max_data_length" :=
  ⟨by decide, List.all_eq_true.1 (by decide +kernel)⟩

theorem bare_given : ∀ entry ∈ given packet data,
    IsBare entry.1 ∧ entry.2 ≤ 9223372036854775807 := by
  have word (w : UInt32) : w.toNat ≤ 9223372036854775807 := by
    have small := w.toNat_lt
    omega
  intro entry member
  rcases List.mem_append.1 member with isPacket | isData
  · obtain ⟨w, -, rfl⟩ := List.mem_map.1 isPacket
    exact ⟨isBare_packet, word w⟩
  · obtain ⟨w, -, rfl⟩ := List.mem_map.1 isData
    exact ⟨isBare_data, word w⟩

theorem nodup_given : ((given packet data).map Prod.fst).Nodup := by
  have apart : "max_packet_length" ≠ "max_data_length" := by decide
  cases packet <;> cases data <;> simp [given, apart]

theorem gives_numbers {others : List (String × Nat)}
    (unknown : ∀ entry ∈ others, entry.1 ≠ "max_packet_length" ∧ entry.1 ≠ "max_data_length") :
    Gives [("codec", .table .header (numbers (given packet data ++ others)))] packet data := by
  have noPacket (value : Value) : ("max_packet_length", value) ∉ numbers others := by
    intro member
    obtain ⟨entry, isOther, same⟩ := List.mem_map.1 member
    exact (unknown entry isOther).1 (Prod.mk.inj same).1
  have noData (value : Value) : ("max_data_length", value) ∉ numbers others := by
    intro member
    obtain ⟨entry, isOther, same⟩ := List.mem_map.1 member
    exact (unknown entry isOther).2 (Prod.mk.inj same).1
  have split : numbers (given packet data ++ others) =
      numbers (given packet data) ++ numbers others := List.map_append
  rw [split]
  refine .table List.mem_cons_self ?_ ?_
  · intro value
    rw [List.mem_append, or_iff_left (noPacket value)]
    cases packet <;> cases data <;> simp [given, numbers]
  · intro value
    rw [List.mem_append, or_iff_left (noData value)]
    cases packet <;> cases data <;> simp [given, numbers]

/-- There is a document for all limits, with any other keys beside those of the limits. -/
theorem exists_parse?_plain {others : List (String × Nat)}
    (bare : ∀ entry ∈ others, IsBare entry.1 ∧ entry.2 ≤ 9223372036854775807)
    (unknown : ∀ entry ∈ others, entry.1 ≠ "max_packet_length" ∧ entry.1 ≠ "max_data_length")
    (distinct : (others.map Prod.fst).Nodup) :
    ∃ document, parse? (plain "codec" (given packet data ++ others)) = some document ∧
      Gives document packet data := by
  have isBare : IsBare "codec" := ⟨by decide, List.all_eq_true.1 (by decide +kernel)⟩
  have all : ∀ entry ∈ given packet data ++ others,
      IsBare entry.1 ∧ entry.2 ≤ 9223372036854775807 := by
    intro entry member
    exact (List.mem_append.1 member).elim (bare_given entry) (bare entry)
  have keys : ((given packet data ++ others).map Prod.fst).Nodup := by
    rw [List.map_append, List.nodup_append]
    refine ⟨nodup_given, distinct, ?_⟩
    rintro key isGiven key' isOther rfl
    obtain ⟨entry, isEntry, rfl⟩ := List.mem_map.1 isOther
    obtain ⟨own, isOwn, same⟩ := List.mem_map.1 isGiven
    rcases List.mem_append.1 isOwn with isPacket | isData
    · obtain ⟨w, -, rfl⟩ := List.mem_map.1 isPacket
      exact (unknown entry isEntry).1 same.symm
    · obtain ⟨w, -, rfl⟩ := List.mem_map.1 isData
      exact (unknown entry isEntry).2 same.symm
  exact ⟨_, parse?_plain isBare (fun entry member => (all entry member).1) keys
    fun entry member => (all entry member).2, gives_numbers unknown⟩

/-! ## Both ways to limits -/

/-- A document and the numbers that it gives come to the same limits or the same fault, whichever
parser takes a text for the document, if only no table of it has a key twice, as none has that the
parser here gives; they come to limits, which are those numbers, exactly if there is room for some
data, reckoned without bound; and there are documents for all numbers. -/
theorem enforced_alike (packet data : Option UInt32) :
    (∀ (parser : Parser) (text : String) (document : Table),
      parser.parse? text = some document → document.Distinct → Gives document packet data →
        limitsBy parser text = Limits.make packet data) ∧
    (∀ (text : String) (document : Table), parse? text = some document →
      Gives document packet data → limits text = Limits.make packet data) ∧
    ((∃ limits, Limits.make packet data = .ok limits) ↔
      1 ≤ number 32768 data ∧ number 32768 data + 9 ≤ number 34000 packet) ∧
    (∀ limits, Limits.make packet data = .ok limits →
      limits.maxPacketLength.toNat = number 34000 packet ∧
        limits.maxDataLength.toNat = number 32768 data) ∧
    ∀ others : List (String × Nat),
      (∀ entry ∈ others, IsBare entry.1 ∧ entry.2 ≤ 9223372036854775807) →
      (∀ entry ∈ others, entry.1 ≠ "max_packet_length" ∧ entry.1 ≠ "max_data_length") →
      (others.map Prod.fst).Nodup →
      ∃ document, parse? (plain "codec" (given packet data ++ others)) = some document ∧
        Gives document packet data :=
  ⟨fun _ _ _ parsed distinct gives => limitsBy_of_gives parsed distinct gives,
    fun _ _ parsed gives => limitsBy_of_gives parsed (distinct_of_parse? parsed) gives,
    exists_make_eq_ok_iff,
    fun _ accepted => toNat_of_make accepted,
    fun _ bare unknown distinct => exists_parse?_plain bare unknown distinct⟩

/-- A limit that leaves no room for the usual amount of data is refused from a document as it is
without one; and a parser that takes every text for the document of one limit. -/
theorem enforced_alike_sample :
    limits "[codec]\nmax_packet_length = 100\nretries = 7\n" =
        .error (.dataTooLong 32768 100) ∧
      limitsBy
          { parse? := fun _ => some [("codec", .table .header [("max_data_length", .integer 7)])]
            complaint := id } "" =
        .ok { maxDataLength := 7 } := by
  have isBare : IsBare "retries" := ⟨by decide, List.all_eq_true.1 (by decide +kernel)⟩
  obtain ⟨-, same, -, -, documents⟩ := enforced_alike (some 100) none
  obtain ⟨any, -⟩ := enforced_alike none (some 7)
  obtain ⟨document, parsed, gives⟩ := documents [("retries", 7)]
    (List.forall_mem_singleton.2 ⟨isBare, by decide⟩) (by simp) (by simp)
  have refused := same _ document parsed gives
  have isText : plain "codec" (given (some 100) none ++ [("retries", 7)]) =
      "[codec]\nmax_packet_length = 100\nretries = 7\n" := by
    rfl
  rw [isText] at refused
  have one : Gives [("codec", .table .header [("max_data_length", .integer 7)])] none (some 7) :=
    @gives_numbers none (some 7) [] nofun
  have distinct : Table.Distinct
      [("codec", .table .header [("max_data_length", .integer 7)])] := by
    refine ⟨by simp, List.forall_mem_singleton.2 (Value.distinct_table_iff.2 ⟨by simp, ?_⟩)⟩
    exact List.forall_mem_singleton.2 (.integer 7)
  exact ⟨refused, any _ "" _ rfl distinct one⟩

end SftpWire.Settings
