import SftpWire.Text.Utf8

/-!
Texts as UTF-8. The bytes of a character are those that the first of them and the bounds for the
others make well-formed (`wellFormed_iff`), and they are cut off as that character, whatever follows
them, so the bytes of a text are cut into its characters (`scan_encode`). They are therefore valid,
and texts with the same bytes are the same.
-/

namespace SftpWire.Utf8

/-! ## First bytes -/

theorem within_iff {low high b : UInt8} :
    within low high b = true ↔ low.toNat ≤ b.toNat ∧ b.toNat ≤ high.toNat := by
  simp [within, UInt8.le_iff_toNat_le]

theorem isTail_iff {b : UInt8} : isTail b = true ↔ 0x80 ≤ b.toNat ∧ b.toNat ≤ 0xBF :=
  within_iff

namespace Lead

variable {b c : UInt8}

theorem ofByte_eq_one_iff : ofByte b = .one ↔ b.toNat < 0x80 := by
  fun_cases ofByte b
  all_goals
    simp only [UInt8.lt_iff_toNat_lt, ← UInt8.toNat_inj, UInt8.reduceToNat] at *
    simp only [reduceCtorEq, false_iff, true_iff]
    omega

theorem ofByte_eq_two_iff : ofByte b = .two ↔ 0xC2 ≤ b.toNat ∧ b.toNat < 0xE0 := by
  fun_cases ofByte b
  all_goals
    simp only [UInt8.lt_iff_toNat_lt, ← UInt8.toNat_inj, UInt8.reduceToNat] at *
    simp only [reduceCtorEq, false_iff, true_iff]
    omega

/-- The second of three bytes is within the bounds that the first sets, unless the form is overlong
or the character a surrogate. -/
theorem exists_ofByte_three_iff :
    (∃ low high, ofByte b = .three low high ∧ within low high c = true) ↔
      (0xE0 ≤ b.toNat ∧ b.toNat < 0xF0) ∧ isTail c = true ∧
        (b.toNat = 0xE0 → 0xA0 ≤ c.toNat) ∧ (b.toNat = 0xED → c.toNat ≤ 0x9F) := by
  fun_cases ofByte b
  all_goals
    simp only [UInt8.lt_iff_toNat_lt, ← UInt8.toNat_inj, UInt8.reduceToNat] at *
    simp only [reduceCtorEq, three.injEq, and_assoc, exists_and_left, exists_eq_left', false_and,
      exists_false, within_iff, isTail_iff, UInt8.reduceToNat, false_iff]
    omega

/-- The second of four bytes is within the bounds that the first sets, unless the form is overlong
or the number is beyond the last character. -/
theorem exists_ofByte_four_iff :
    (∃ low high, ofByte b = .four low high ∧ within low high c = true) ↔
      (0xF0 ≤ b.toNat ∧ b.toNat ≤ 0xF4) ∧ isTail c = true ∧
        (b.toNat = 0xF0 → 0x90 ≤ c.toNat) ∧ (b.toNat = 0xF4 → c.toNat ≤ 0x8F) := by
  fun_cases ofByte b
  all_goals
    simp only [UInt8.lt_iff_toNat_lt, ← UInt8.toNat_inj, UInt8.reduceToNat] at *
    simp only [reduceCtorEq, four.injEq, and_assoc, exists_and_left, exists_eq_left', false_and,
      exists_false, within_iff, isTail_iff, UInt8.reduceToNat, false_iff]
    omega

end Lead

/-! ## Characters -/

/-- Bytes that are cut off as one character: the first of them says how many they are, and each of
the others is within its bounds. -/
inductive WellFormed : Bytes → Char → Prop
  | one {b : UInt8} (lead : Lead.ofByte b = .one) : WellFormed [b] (Char.ofNat b.toNat)
  | two {b c : UInt8} (lead : Lead.ofByte b = .two) (tail : isTail c = true) :
    WellFormed [b, c] (char₂ b c)
  | three {b c d low high : UInt8} (lead : Lead.ofByte b = .three low high)
    (second : within low high c = true) (tail : isTail d = true) :
    WellFormed [b, c, d] (char₃ b c d)
  | four {b c d e low high : UInt8} (lead : Lead.ofByte b = .four low high)
    (second : within low high c = true) (tail : isTail d = true) (tail' : isTail e = true) :
    WellFormed [b, c, d, e] (char₄ b c d e)

theorem toNat_ofNat_of_lt {n : Nat} (small : n < 256) : (UInt8.ofNat n).toNat = n := by
  rw [UInt8.toNat_ofNat']
  omega

theorem ofNat_eq_of_toNat {n : Nat} {b : UInt8} (same : n = b.toNat) : UInt8.ofNat n = b := by
  rw [same, UInt8.ofNat_toNat]

/-- The low six bits of a number, as a byte behind the first of a character. -/
theorem toNat_tail (n : Nat) : (UInt8.ofNat (0x80 + n % 64)).toNat = 0x80 + n % 64 :=
  toNat_ofNat_of_lt (by omega)

theorem isTail_tail (n : Nat) : isTail (UInt8.ofNat (0x80 + n % 64)) = true := by
  rw [isTail_iff, toNat_tail]
  omega

theorem toNat_ofNat_of_isValidChar {n : Nat} (isChar : n.isValidChar) :
    (Char.ofNat n).toNat = n := by
  rw [Char.ofNat, dif_pos isChar]
  rfl

theorem wellFormed_encodeChar (c : Char) : WellFormed (encodeChar c) c := by
  have isChar : c.toNat < 0xD800 ∨ 0xDFFF < c.toNat ∧ c.toNat < 0x110000 := c.valid
  have whole {n : Nat} (same : n = c.toNat) : Char.ofNat n = c := by
    rw [same, Char.ofNat_toNat]
  simp only [encodeChar]
  generalize c.toNat = n at isChar whole
  split
  · have first := toNat_ofNat_of_lt (n := n) (by omega)
    have lead : Lead.ofByte (UInt8.ofNat n) = .one := Lead.ofByte_eq_one_iff.2 (by omega)
    have formed := WellFormed.one lead
    rwa [first, whole rfl] at formed
  · split
    · have first := toNat_ofNat_of_lt (n := 0xC0 + n / 64) (by omega)
      have lead : Lead.ofByte (UInt8.ofNat (0xC0 + n / 64)) = .two :=
        Lead.ofByte_eq_two_iff.2 (by omega)
      have formed := WellFormed.two lead (isTail_tail n)
      rwa [char₂, first, toNat_tail, whole (by omega)] at formed
    · split
      · have first := toNat_ofNat_of_lt (n := 0xE0 + n / 4096) (by omega)
        have second := toNat_tail (n / 64)
        obtain ⟨low, high, lead, bounds⟩ :=
          (Lead.exists_ofByte_three_iff (b := UInt8.ofNat (0xE0 + n / 4096))).2
            ⟨by omega, isTail_tail (n / 64), by omega, by omega⟩
        have formed := WellFormed.three lead bounds (isTail_tail n)
        rwa [char₃, first, second, toNat_tail, whole (by omega)] at formed
      · have first := toNat_ofNat_of_lt (n := 0xF0 + n / 262144) (by omega)
        have second := toNat_tail (n / 4096)
        have third := toNat_tail (n / 64)
        obtain ⟨low, high, lead, bounds⟩ :=
          (Lead.exists_ofByte_four_iff (b := UInt8.ofNat (0xF0 + n / 262144))).2
            ⟨by omega, isTail_tail (n / 4096), by omega, by omega⟩
        have formed := WellFormed.four lead bounds (isTail_tail (n / 64)) (isTail_tail n)
        rwa [char₄, first, second, third, toNat_tail, whole (by omega)] at formed

namespace WellFormed

variable {front : Bytes} {char : Char}

theorem eq_encodeChar (formed : WellFormed front char) : front = encodeChar char := by
  cases formed with
  | @one b lead =>
    have first := Lead.ofByte_eq_one_iff.1 lead
    have number := toNat_ofNat_of_isValidChar (n := b.toNat) (.inl (by omega))
    simp only [encodeChar, number]
    rw [if_pos first, UInt8.ofNat_toNat]
  | @two b c lead tail =>
    have first := Lead.ofByte_eq_two_iff.1 lead
    have second := isTail_iff.1 tail
    have number : (char₂ b c).toNat = b.toNat % 32 * 64 + c.toNat % 64 :=
      toNat_ofNat_of_isValidChar (.inl (by omega))
    simp only [encodeChar, number]
    rw [if_neg (by omega), if_pos (by omega), ofNat_eq_of_toNat (b := b) (by omega),
      ofNat_eq_of_toNat (b := c) (by omega)]
  | @three b c d low high lead within tail =>
    obtain ⟨first, second, shortest, noSurrogate⟩ :=
      Lead.exists_ofByte_three_iff.1 ⟨low, high, lead, within⟩
    have second := isTail_iff.1 second
    have third := isTail_iff.1 tail
    have number : (char₃ b c d).toNat = b.toNat % 16 * 4096 + c.toNat % 64 * 64 + d.toNat % 64 :=
      toNat_ofNat_of_isValidChar (by simp only [Nat.isValidChar]; omega)
    simp only [encodeChar, number]
    rw [if_neg (by omega), if_neg (by omega), if_pos (by omega),
      ofNat_eq_of_toNat (b := b) (by omega), ofNat_eq_of_toNat (b := c) (by omega),
      ofNat_eq_of_toNat (b := d) (by omega)]
  | @four b c d e low high lead within tail tail' =>
    obtain ⟨first, second, shortest, last⟩ :=
      Lead.exists_ofByte_four_iff.1 ⟨low, high, lead, within⟩
    have second := isTail_iff.1 second
    have third := isTail_iff.1 tail
    have fourth := isTail_iff.1 tail'
    have number : (char₄ b c d e).toNat =
        b.toNat % 8 * 262144 + c.toNat % 64 * 4096 + d.toNat % 64 * 64 + e.toNat % 64 :=
      toNat_ofNat_of_isValidChar (by simp only [Nat.isValidChar]; omega)
    simp only [encodeChar, number]
    rw [if_neg (by omega), if_neg (by omega), if_neg (by omega),
      ofNat_eq_of_toNat (b := b) (by omega), ofNat_eq_of_toNat (b := c) (by omega),
      ofNat_eq_of_toNat (b := d) (by omega), ofNat_eq_of_toNat (b := e) (by omega)]

/-- What follows a character makes no difference to it. -/
theorem scanOnto_append (formed : WellFormed front char) (done : List (Option Char))
    (rest : Bytes) : scanOnto done (front ++ rest) = scanOnto (some char :: done) rest := by
  cases formed with
  | one lead =>
    rw [List.singleton_append, scanOnto.eq_def]
    simp only [lead]
  | two lead tail =>
    simp only [List.cons_append, List.nil_append]
    rw [scanOnto.eq_def]
    simp only [lead, tail, if_true]
  | three lead second tail =>
    simp only [List.cons_append, List.nil_append]
    rw [scanOnto.eq_def]
    simp only [lead, second, tail, if_true]
  | four lead second tail tail' =>
    simp only [List.cons_append, List.nil_append]
    rw [scanOnto.eq_def]
    simp only [lead, second, tail, tail', if_true]

end WellFormed

/-- The bytes of a character are those that are cut off as that character. -/
theorem wellFormed_iff {bytes : Bytes} {c : Char} : WellFormed bytes c ↔ bytes = encodeChar c := by
  constructor
  · exact WellFormed.eq_encodeChar
  · rintro rfl
    exact wellFormed_encodeChar c

/-- A byte of a character is the whole of it or outside ASCII. -/
theorem toNat_of_mem_encodeChar {c : Char} {b : UInt8} (member : b ∈ encodeChar c) :
    b.toNat = c.toNat ∨ 0x80 ≤ b.toNat := by
  have isChar : c.toNat < 0xD800 ∨ 0xDFFF < c.toNat ∧ c.toNat < 0x110000 := c.valid
  simp only [encodeChar] at member
  generalize c.toNat = n at isChar member
  repeat' split at member
  all_goals
    simp only [List.mem_cons, List.not_mem_nil, or_false] at member
  · obtain rfl := member
    exact .inl (toNat_ofNat_of_lt (by omega))
  · rcases member with rfl | rfl
    all_goals
      rw [toNat_ofNat_of_lt (by omega)]
      omega
  · rcases member with rfl | rfl | rfl
    all_goals
      rw [toNat_ofNat_of_lt (by omega)]
      omega
  · rcases member with rfl | rfl | rfl | rfl
    all_goals
      rw [toNat_ofNat_of_lt (by omega)]
      omega

/-! ## Texts -/

theorem scanOnto_encode (text : List Char) (done : List (Option Char)) :
    scanOnto done (encode text) = done.reverse ++ text.map some := by
  induction text generalizing done with
  | nil => simp [encode, scanOnto]
  | cons c text ih =>
    have split : encode (c :: text) = encodeChar c ++ encode text := rfl
    rw [split, (wellFormed_encodeChar c).scanOnto_append, ih, List.reverse_cons, List.append_assoc]
    rfl

/-- The bytes of a text are cut into its characters. -/
theorem scan_encode (text : List Char) : scan (encode text) = text.map some :=
  scanOnto_encode text []

theorem isValid_encode (text : List Char) : isValid (encode text) = true := by
  simp [isValid, scan_encode]

theorem lossy_encode (text : List Char) : lossy (encode text) = text := by
  simp [lossy, scan_encode, Function.comp_def]

theorem decode?_encode (text : List Char) : decode? (encode text) = some text := by
  rw [decode?, if_pos (isValid_encode text), lossy_encode]

theorem isValid_ofString (text : String) : isValid (ofString text) = true :=
  isValid_encode text.toList

/-- Texts with the same bytes are the same. -/
theorem ofString_injective {text text' : String} (same : ofString text = ofString text') :
    text = text' := by
  have cut := congrArg lossy same
  rw [ofString, ofString, lossy_encode, lossy_encode] at cut
  exact String.toList_inj.1 cut

end SftpWire.Utf8
