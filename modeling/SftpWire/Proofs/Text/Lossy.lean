import SftpWire.Proofs.Text.Utf8

/-!
Bytes as text. `Cut` says, without the scan, how bytes are taken apart: characters are cut off where
they stand, and where none stands the longest run that could still have begun one, or else a single
byte. Every byte string has one such cut and the scan gives it (`cut_iff`). So valid bytes are those
of a text, the text of any others has a replacement character where the run was, and from that text
the bytes cannot be had back. Main statement: `views_exact`.
-/

namespace SftpWire.Utf8

/-- Bytes that those of a character begin with. -/
def Begins (part : Bytes) : Prop :=
  ∃ c, part <+: encodeChar c

/-- Bytes in front of others that are replaced together. No character stands there; they begin one
or are a single byte, and with any more of the bytes behind them they begin none. -/
structure Stray (part rest : Bytes) : Prop where
  ne_nil : part ≠ []
  not_char : ∀ c, ¬ encodeChar c <+: part ++ rest
  begins : part.length = 1 ∨ Begins part
  longest : ∀ more, more ≠ [] → more <+: rest → ¬ Begins (part ++ more)

/-- Bytes taken apart into characters, with `none` for each run that is none. -/
inductive Cut : Bytes → List (Option Char) → Prop
  | nil : Cut [] []
  | char (c : Char) {rest : Bytes} {cut : List (Option Char)} (others : Cut rest cut) :
    Cut (encodeChar c ++ rest) (some c :: cut)
  | stray {part rest : Bytes} {cut : List (Option Char)} (stray : Stray part rest)
    (others : Cut rest cut) : Cut (part ++ rest) (none :: cut)

/-! ## What first bytes say -/

namespace Lead

/-- The number of bytes of a character. -/
def size : Lead → Nat
  | .one => 1
  | .two => 2
  | .three .. => 3
  | .four .. => 4
  | .none => 0

/-- Whether a byte can stand second. -/
def allows : Lead → UInt8 → Bool
  | .two, c => isTail c
  | .three low high, c | .four low high, c => within low high c
  | .one, _ | .none, _ => false

/-- Each of the bytes behind the first is within its bounds, as far as they go. -/
def Fits (lead : Lead) : Bytes → Prop
  | [] => True
  | c :: more => lead.allows c = true ∧ ∀ d ∈ more, isTail d = true

variable {lead : Lead} {more tail : Bytes}

theorem Fits.of_append (fits : lead.Fits (more ++ tail)) : lead.Fits more := by
  cases more with
  | nil => trivial
  | cons c more => exact ⟨fits.1, fun d member => fits.2 d (List.mem_append_left tail member)⟩

theorem fits_append (some : more ≠ []) (fits : lead.Fits more)
    (tails : ∀ d ∈ tail, isTail d = true) : lead.Fits (more ++ tail) := by
  cases more with
  | nil => exact absurd rfl some
  | cons c more => exact ⟨fits.1, List.forall_mem_append.2 ⟨fits.2, tails⟩⟩

end Lead

variable {b : UInt8} {more part rest : Bytes} {char : Char}

/-- The first byte says how many there are, and each of the others is within its bounds. -/
theorem exists_wellFormed_iff :
    (∃ char, WellFormed (b :: more) char) ↔
      (Lead.ofByte b).size = more.length + 1 ∧ (Lead.ofByte b).Fits more := by
  constructor
  · rintro ⟨char, formed⟩
    cases formed with
    | one lead => simp [lead, Lead.size, Lead.Fits]
    | two lead tail => simp [lead, Lead.size, Lead.Fits, Lead.allows, tail]
    | three lead second tail => simp [lead, Lead.size, Lead.Fits, Lead.allows, second, tail]
    | four lead second tail tail' =>
      simp [lead, Lead.size, Lead.Fits, Lead.allows, second, tail, tail']
  · rintro ⟨size, fits⟩
    cases lead : Lead.ofByte b with
    | none => simp [lead, Lead.size] at size
    | one =>
      obtain rfl : more = [] := by simpa [lead, Lead.size] using size
      exact ⟨_, .one lead⟩
    | two =>
      rw [lead] at size fits
      match more, size, fits with
      | [c], _, ⟨second, _⟩ => exact ⟨_, .two lead second⟩
    | three low high =>
      rw [lead] at size fits
      match more, size, fits with
      | [c, d], _, ⟨second, tails⟩ => exact ⟨_, .three lead second (tails d (by simp))⟩
    | four low high =>
      rw [lead] at size fits
      match more, size, fits with
      | [c, d, e], _, ⟨second, tails⟩ =>
        exact ⟨_, .four lead second (tails d (by simp)) (tails e (by simp))⟩

theorem encodeChar_ne_nil (c : Char) : encodeChar c ≠ [] := by
  intro none
  have formed := wellFormed_encodeChar c
  rw [none] at formed
  cases formed

/-- Where a character stands, the first byte says how many bytes it takes. -/
theorem size_of_isPrefix (front : encodeChar char <+: b :: more) :
    0 < (Lead.ofByte b).size ∧ (Lead.ofByte b).size ≤ more.length + 1 := by
  have formed := wellFormed_encodeChar char
  cases written : encodeChar char with
  | nil => exact absurd written (encodeChar_ne_nil char)
  | cons first others =>
    rw [written] at front formed
    obtain ⟨rfl, behind⟩ := List.cons_prefix_cons.1 front
    have size := (exists_wellFormed_iff.1 ⟨char, formed⟩).1
    have fewer := behind.length_le
    omega

theorem Begins.of_append (begins : Begins (part ++ more)) : Begins part := by
  obtain ⟨char, front⟩ := begins
  exact ⟨char, (List.prefix_append part more).trans front⟩

theorem Begins.fits (begins : Begins (b :: more)) : (Lead.ofByte b).Fits more := by
  obtain ⟨char, tail, split⟩ := begins
  have formed := wellFormed_encodeChar char
  rw [← split] at formed
  exact (exists_wellFormed_iff.1 ⟨char, formed⟩).2.of_append

/-- Bytes within their bounds begin a character while there are too few of them. -/
theorem begins_of_fits (some : more ≠ []) (fits : (Lead.ofByte b).Fits more)
    (short : more.length + 1 ≤ (Lead.ofByte b).size) : Begins (b :: more) := by
  let tail : Bytes := List.replicate ((Lead.ofByte b).size - (more.length + 1)) 0x80
  have tails : ∀ d ∈ tail, isTail d = true := by
    intro d member
    rw [List.eq_of_mem_replicate member]
    decide
  have size : (Lead.ofByte b).size = (more ++ tail).length + 1 := by
    rw [List.length_append, List.length_replicate]
    omega
  obtain ⟨char, formed⟩ := exists_wellFormed_iff.2 ⟨size, Lead.fits_append some fits tails⟩
  exact ⟨char, tail, formed.eq_encodeChar⟩

/-! ## Runs that are no character -/

/-- Bytes that break off: the first says that there are more of them or can be the first of none,
and what follows is no byte that could stand there. -/
structure Breaks (b : UInt8) (more rest : Bytes) : Prop where
  short : more.length + 1 < (Lead.ofByte b).size ∨ more = [] ∧ (Lead.ofByte b).size = 0
  fits : (Lead.ofByte b).Fits more
  next : ∀ c ∈ rest.head?, ¬ (Lead.ofByte b).Fits (more ++ [c])

namespace Breaks

theorem not_char (breaks : Breaks b more rest) : ¬ encodeChar char <+: b :: more := by
  intro front
  have bounds := size_of_isPrefix front
  rcases breaks.short with short | ⟨-, none⟩
  · omega
  · omega

/-- It is enough to look at the next byte. -/
theorem stray (breaks : Breaks b more rest) : Stray (b :: more) rest := by
  have longest : ∀ others, others ≠ [] → others <+: rest → ¬ Begins (b :: more ++ others) := by
    intro others some front begins
    cases others with
    | nil => exact some rfl
    | cons c others =>
      obtain ⟨tail, rfl⟩ := front
      rw [List.append_cons] at begins
      exact breaks.next c rfl begins.of_append.fits
  refine ⟨List.cons_ne_nil b more, fun char front => ?_, ?_, longest⟩
  · rcases List.prefix_or_prefix_of_prefix front (List.prefix_append (b :: more) rest) with
      inside | ⟨others, split⟩
    · exact breaks.not_char inside
    · rw [← split, List.prefix_append_right_inj] at front
      have some : others ≠ [] := by
        rintro rfl
        rw [List.append_nil] at split
        have whole : encodeChar char <+: b :: more := split ▸ List.prefix_rfl
        exact breaks.not_char whole
      exact longest others some front ⟨char, split.symm ▸ List.prefix_rfl⟩
  · by_cases alone : more = []
    · exact .inl (by rw [alone]; rfl)
    · rcases breaks.short with short | ⟨none, -⟩
      · exact .inr (begins_of_fits alone breaks.fits (by omega))
      · exact absurd none alone

theorem refuses_second (breaks : Breaks b [] rest) :
    ∀ c ∈ rest.head?, (Lead.ofByte b).allows c = false := by
  intro c isNext
  rw [Bool.eq_false_iff]
  exact fun allowed => breaks.next c isNext ⟨allowed, nofun⟩

theorem refuses_tail (breaks : Breaks b more rest) (some : more ≠ []) :
    ∀ d ∈ rest.head?, isTail d = false := by
  intro d isNext
  rw [Bool.eq_false_iff]
  intro tail
  exact breaks.next d isNext (Lead.fits_append some breaks.fits (List.forall_mem_singleton.2 tail))

end Breaks

/-- Where the next byte is refused, or there is none, the bytes before it are cut off. -/
theorem scanOnto_of_refused {allows : UInt8 → Bool} {done : List (Option Char)}
    {goOn : UInt8 → Bytes → List (Option Char)} :
    (∀ c ∈ rest.head?, allows c = false) →
      (match rest with
        | [] => (none :: done).reverse
        | c :: tail =>
          if allows c = true then goOn c tail else scanOnto (none :: done) (c :: tail)) =
        scanOnto (none :: done) rest := by
  intro refused
  cases rest with
  | nil => rw [scanOnto]
  | cons c tail => simp only [refused c rfl, Bool.false_eq_true, if_false]

theorem Breaks.scanOnto_cons (breaks : Breaks b [] rest) (done : List (Option Char)) :
    scanOnto done (b :: rest) = scanOnto (none :: done) rest := by
  have short := breaks.short
  have refused := breaks.refuses_second
  rw [scanOnto.eq_def]
  cases lead : Lead.ofByte b with
  | none => simp only [lead]
  | one => simp [lead, Lead.size] at short
  | two | three | four =>
    rw [lead] at refused
    simp only [lead]
    exact scanOnto_of_refused refused

/-- The bytes that break off are cut off together. -/
theorem Breaks.scanOnto_append (breaks : Breaks b more rest) (done : List (Option Char)) :
    scanOnto done (b :: (more ++ rest)) = scanOnto (none :: done) rest := by
  cases more with
  | nil => exact breaks.scanOnto_cons done
  | cons c more =>
    have short := breaks.short.resolve_right fun none => List.cons_ne_nil c more none.1
    have fits := breaks.fits
    have refused := breaks.refuses_tail (List.cons_ne_nil c more)
    rw [scanOnto.eq_def]
    cases lead : Lead.ofByte b with
    | none | one | two =>
      simp only [lead, Lead.size, List.length_cons] at short
      omega
    | three low high =>
      simp only [lead, Lead.size, List.length_cons] at short
      rw [lead] at fits
      obtain rfl : more = [] := List.length_eq_zero_iff.1 (by omega)
      have second : within low high c = true := fits.1
      simp only [lead, second, List.cons_append, List.nil_append, if_true]
      exact scanOnto_of_refused refused
    | four low high =>
      simp only [lead, Lead.size, List.length_cons] at short
      rw [lead] at fits
      have second : within low high c = true := fits.1
      cases more with
      | nil =>
        simp only [lead, second, List.cons_append, List.nil_append, if_true]
        exact scanOnto_of_refused refused
      | cons d more =>
        have third : isTail d = true := fits.2 d List.mem_cons_self
        rw [List.length_cons] at short
        obtain rfl : more = [] := List.length_eq_zero_iff.1 (by omega)
        simp only [lead, second, third, List.cons_append, List.nil_append, if_true]
        exact scanOnto_of_refused refused

/-- Behind a first byte with too few others, the bytes go on to a whole character or break off. -/
theorem exists_extension {k : Nat} (fits : (Lead.ofByte b).Fits more)
    (size : (Lead.ofByte b).size = more.length + 1 + k) :
    ∃ others rest', rest = others ++ rest' ∧
      ((∃ char, WellFormed (b :: (more ++ others)) char) ∨ Breaks b (more ++ others) rest') := by
  induction k generalizing more rest with
  | zero =>
    refine ⟨[], rest, rfl, .inl (exists_wellFormed_iff.2 ?_)⟩
    rw [List.append_nil]
    exact ⟨size, fits⟩
  | succ k ih =>
    by_cases next : ∃ c ∈ rest.head?, (Lead.ofByte b).Fits (more ++ [c])
    · obtain ⟨c, isNext, fits⟩ := next
      obtain ⟨tail, rfl⟩ := List.head?_eq_some_iff.1 isNext
      have longer : (Lead.ofByte b).size = (more ++ [c]).length + 1 + k := by
        rw [size, List.length_append, List.length_singleton]
        omega
      obtain ⟨others, rest', rfl, front⟩ := @ih (more ++ [c]) tail fits longer
      rw [List.append_assoc] at front
      exact ⟨c :: others, rest', rfl, front⟩
    · refine ⟨[], rest, rfl, .inr ?_⟩
      rw [List.append_nil]
      exact ⟨.inl (by omega), fits, fun c isNext fits => next ⟨c, isNext, fits⟩⟩

/-- In front of any bytes stands a character, or bytes that break off. -/
theorem exists_front (b : UInt8) (rest : Bytes) :
    ∃ more rest', rest = more ++ rest' ∧
      ((∃ char, WellFormed (b :: more) char) ∨ Breaks b more rest') := by
  have fits : (Lead.ofByte b).Fits [] := trivial
  by_cases none : (Lead.ofByte b).size = 0
  · have next : ∀ c ∈ rest.head?, ¬ (Lead.ofByte b).Fits ([] ++ [c]) := by
      intro c _ fits
      cases lead : Lead.ofByte b with
      | none => simp [lead, Lead.Fits, Lead.allows] at fits
      | _ => simp [lead, Lead.size] at none
    exact ⟨[], rest, rfl, .inr ⟨.inr ⟨rfl, none⟩, fits, next⟩⟩
  · have size : (Lead.ofByte b).size = ([] : Bytes).length + 1 + ((Lead.ofByte b).size - 1) := by
      rw [List.length_nil]
      omega
    exact exists_extension fits size

/-! ## Cuts -/

/-- Of the same bytes, one run only is replaced together. -/
theorem Stray.part_eq {part' rest' : Bytes} (stray : Stray part rest) (stray' : Stray part' rest')
    (same : part ++ rest = part' ++ rest') : part = part' ∧ rest = rest' := by
  -- The longer of the two would be the shorter with more of the bytes behind it.
  have notLonger {part rest part' rest' more : Bytes} (stray : Stray part rest)
      (stray' : Stray part' rest') (longer : part' = part ++ more) (behind : rest = more ++ rest') :
      more = [] := by
    refine Decidable.byContradiction fun some => ?_
    rcases stray'.begins with single | begins
    · have first := List.length_pos_iff.2 stray.ne_nil
      have second := List.length_pos_iff.2 some
      rw [longer, List.length_append] at single
      omega
    · exact stray.longest more some ⟨rest', behind.symm⟩ (longer ▸ begins)
  rcases List.append_eq_append_iff.1 same with ⟨more, longer, behind⟩ | ⟨more, longer, behind⟩
  · obtain rfl := notLonger stray stray' longer behind
    rw [List.append_nil] at longer
    exact ⟨longer.symm, behind⟩
  · obtain rfl := notLonger stray' stray longer behind
    rw [List.append_nil] at longer
    exact ⟨longer, behind.symm⟩

theorem Stray.scanOnto_append (stray : Stray part rest) (done : List (Option Char)) :
    scanOnto done (part ++ rest) = scanOnto (none :: done) rest := by
  cases part with
  | nil => exact absurd rfl stray.ne_nil
  | cons b others =>
    obtain ⟨more, rest', split, ⟨char, formed⟩ | breaks⟩ := exists_front b (others ++ rest)
    · have front : encodeChar char <+: b :: others ++ rest := by
        rw [← formed.eq_encodeChar, List.cons_append, split]
        exact List.prefix_append (b :: more) rest'
      exact absurd front (stray.not_char char)
    · have same : b :: others ++ rest = b :: more ++ rest' := congrArg (b :: ·) split
      obtain ⟨-, rfl⟩ := stray.part_eq breaks.stray same
      rw [same]
      exact breaks.scanOnto_append done

variable {bytes : Bytes} {cut : List (Option Char)}

theorem Cut.scanOnto_eq (isCut : Cut bytes cut) (done : List (Option Char)) :
    scanOnto done bytes = done.reverse ++ cut := by
  induction isCut generalizing done with
  | nil => simp [scanOnto]
  | char c others ih => rw [(wellFormed_encodeChar c).scanOnto_append, ih]; simp
  | stray stray others ih => rw [stray.scanOnto_append, ih]; simp

/-- All bytes can be taken apart. -/
theorem exists_cut (bytes : Bytes) : ∃ cut, Cut bytes cut := by
  induction size : bytes.length using Nat.strongRecOn generalizing bytes with
  | ind n ih =>
    cases bytes with
    | nil => exact ⟨[], .nil⟩
    | cons b rest =>
      obtain ⟨more, rest', rfl, front⟩ := exists_front b rest
      have shorter : rest'.length < n := by
        rw [← size, List.length_cons, List.length_append]
        omega
      obtain ⟨cut, others⟩ := ih _ shorter rest' rfl
      rcases front with ⟨char, formed⟩ | breaks
      · refine ⟨some char :: cut, ?_⟩
        rw [← List.cons_append, formed.eq_encodeChar]
        exact .char char others
      · exact ⟨none :: cut, .stray breaks.stray others⟩

/-- The scan gives the one cut that there is. -/
theorem cut_iff : Cut bytes cut ↔ scan bytes = cut := by
  have unique {cut : List (Option Char)} (isCut : Cut bytes cut) : scan bytes = cut :=
    isCut.scanOnto_eq []
  constructor
  · exact unique
  · rintro rfl
    obtain ⟨cut, isCut⟩ := exists_cut bytes
    rwa [unique isCut]

/-! ## Views -/

/-- The bytes of a cut into characters alone are those of a text. -/
theorem Cut.eq_encode (isCut : Cut bytes cut) (whole : ∀ piece ∈ cut, piece.isSome = true) :
    bytes = encode (cut.map (·.getD replacement)) := by
  induction isCut with
  | nil => rfl
  | char c others ih => rw [ih (List.forall_mem_cons.1 whole).2]; rfl
  | stray => cases (List.forall_mem_cons.1 whole).1

/-- Valid bytes are those of a text, and that is their own lossy text. -/
theorem isValid_iff_eq_encode : isValid bytes = true ↔ bytes = encode (lossy bytes) := by
  constructor
  · intro valid
    exact (cut_iff.2 rfl).eq_encode (List.all_eq_true.1 valid)
  · intro same
    rw [same]
    exact isValid_encode (lossy bytes)

theorem isValid_iff : isValid bytes = true ↔ ∃ text, bytes = encode text := by
  constructor
  · exact fun valid => ⟨lossy bytes, isValid_iff_eq_encode.1 valid⟩
  · rintro ⟨text, rfl⟩
    exact isValid_encode text

theorem decode?_eq_some_iff {text : List Char} :
    decode? bytes = some text ↔ bytes = encode text := by
  constructor
  · intro decoded
    rw [decode?] at decoded
    split at decoded
    · next valid =>
      obtain rfl := Option.some.inj decoded
      exact isValid_iff_eq_encode.1 valid
    · cases decoded
  · rintro rfl
    exact decode?_encode text

theorem replacement_mem_lossy (invalid : isValid bytes = false) : replacement ∈ lossy bytes := by
  obtain ⟨piece, member, isNone⟩ := List.all_eq_false.1 invalid
  obtain rfl : piece = none := by simpa using isNone
  exact List.mem_map.2 ⟨none, member, rfl⟩

/-- The bytes of a character are those that strings hold it as. -/
theorem encodeChar_eq (c : Char) : encodeChar c = String.utf8EncodeChar c := by
  have isChar : c.toNat < 0xD800 ∨ 0xDFFF < c.toNat ∧ c.toNat < 0x110000 := c.valid
  have number : c.val.toNat = c.toNat := rfl
  simp only [encodeChar, String.utf8EncodeChar, number]
  generalize c.toNat = n at isChar
  repeat' split
  all_goals first | omega | simp (disch := omega) only [Nat.mod_eq_of_lt, Nat.add_comm]

theorem toByteArray_encode (text : List Char) :
    (encode text).toByteArray = (String.ofList text).toByteArray := by
  have same : encodeChar = String.utf8EncodeChar := funext encodeChar_eq
  rw [String.toByteArray_ofList, List.utf8Encode, encode, same]

/-- A string is read as a text exactly if its bytes are those of that text, as strings hold them.
Its lossy text has one replacement character for each run that is no character, and it is spelled by
the bytes exactly if they are those of a text; if they are not, something was replaced, and other
bytes are made of the text. A second time the lossy text is the same. -/
theorem views_exact (bytes : Bytes) :
    (∀ text, decode? bytes = some text ↔ bytes = encode text) ∧
    (∀ text, (encode text).toByteArray = (String.ofList text).toByteArray) ∧
    ((∃ cut, Cut bytes cut) ∧
      ∀ cut, Cut bytes cut → lossy bytes = cut.map (·.getD replacement)) ∧
    (spells (lossy bytes) bytes = true ↔ ∃ text, bytes = encode text) ∧
    ((¬ ∃ text, bytes = encode text) →
      replacement ∈ lossy bytes ∧ encode (lossy bytes) ≠ bytes) ∧
    lossy (encode (lossy bytes)) = lossy bytes := by
  refine ⟨fun text => decode?_eq_some_iff, toByteArray_encode, ⟨exists_cut bytes, ?cuts⟩, ?spelled,
    ?invalid, lossy_encode (lossy bytes)⟩
  case cuts =>
    intro cut isCut
    rw [lossy, cut_iff.1 isCut]
  case spelled =>
    rw [spells, beq_iff_eq, ← isValid_iff_eq_encode, isValid_iff]
  case invalid =>
    intro invalid
    rw [← isValid_iff, Bool.not_eq_true] at invalid
    refine ⟨replacement_mem_lossy invalid, fun same => ?_⟩
    rw [isValid_iff_eq_encode.2 same.symm] at invalid
    cases invalid

/-- Four bytes of which the last is missing, a byte that begins nothing, and a surrogate. -/
theorem views_exact_sample :
    lossy [0x61, 0xF0, 0x9F, 0x98, 0xFF, 0xED, 0xA0] =
        ['a', '\uFFFD', '\uFFFD', '\uFFFD', '\uFFFD'] ∧
      replacement ∈ lossy [0x61, 0xF0, 0x9F, 0x98, 0xFF, 0xED, 0xA0] ∧
      encode (lossy [0x61, 0xF0, 0x9F, 0x98, 0xFF, 0xED, 0xA0]) ≠
        [0x61, 0xF0, 0x9F, 0x98, 0xFF, 0xED, 0xA0] := by
  obtain ⟨-, -, -, -, replaced, -⟩ := views_exact [0x61, 0xF0, 0x9F, 0x98, 0xFF, 0xED, 0xA0]
  have invalid : ¬ ∃ text, [0x61, 0xF0, 0x9F, 0x98, 0xFF, 0xED, 0xA0] = encode text := by
    rw [← isValid_iff]
    decide
  exact ⟨by decide, replaced invalid⟩

end SftpWire.Utf8
