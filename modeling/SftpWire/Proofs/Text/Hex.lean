import SftpWire.Proofs.Text.Utf8
import SftpWire.Text.Blank
import SftpWire.Text.Hex

/-!
Hexadecimal text. Two digits of either case for each byte are read as the bytes
(`Spells.decode_digits`), and since no digit is white space the digits are what is left when the
text around them is trimmed (`Spells.trim_append`).
-/

namespace SftpWire

namespace Blank

/-- White space is cut off up to what has none at its beginning. -/
theorem dropWhile_append {blank text : List Char} (front : ∀ c ∈ blank, isBlank c = true)
    (solid : ∀ c ∈ text.head?, isBlank c = false) :
    (blank ++ text).dropWhile isBlank = text := by
  rw [List.dropWhile_append_of_pos front]
  cases text with
  | nil => rfl
  | cons c text => exact List.dropWhile_cons_of_neg (by simp [solid c rfl])

/-- What has no white space in it is left when the white space around it is taken away. -/
theorem trim_append {before text after : List Char} (front : ∀ c ∈ before, isBlank c = true)
    (solid : ∀ c ∈ text, isBlank c = false) (behind : ∀ c ∈ after, isBlank c = true) :
    trim (before ++ text ++ after) = text := by
  have behind' : ∀ c ∈ after.reverse, isBlank c = true := fun c member =>
    behind c (List.mem_reverse.1 member)
  have solid' : ∀ c ∈ text.reverse.head?, isBlank c = false := fun c isHead =>
    solid c (List.mem_reverse.1 (List.mem_of_head? isHead))
  cases text with
  | nil =>
    have blank : ∀ c ∈ before ++ after, isBlank c = true := fun c member =>
      (List.mem_append.1 member).elim (front c) (behind c)
    have gone : (before ++ after ++ []).dropWhile isBlank = [] := dropWhile_append blank nofun
    rw [List.append_nil] at gone
    rw [List.append_nil, trim, gone]
    rfl
  | cons c text =>
    have first : ∀ d ∈ (c :: text ++ after).head?, isBlank d = false := by
      simpa using solid c List.mem_cons_self
    rw [trim, List.append_assoc, dropWhile_append front first, List.reverse_append,
      dropWhile_append behind' solid', List.reverse_reverse]

end Blank

namespace Hex

/-- A digit of a number below sixteen, in either case. -/
def IsDigit (c : Char) (n : Nat) : Prop :=
  c = digit n ∨ c = (digit n).toUpper

/-- Digits of bytes, two for each. -/
inductive Spells : List Char → Bytes → Prop
  | nil : Spells [] []
  | cons {high low : Char} {b : UInt8} {digits : List Char} {bytes : Bytes}
    (isHigh : IsDigit high (b.toNat / 16)) (isLow : IsDigit low (b.toNat % 16))
    (rest : Spells digits bytes) : Spells (high :: low :: digits) (b :: bytes)

/-! ## Digits -/

section

variable {c : Char} {n : Nat}

/-- A digit is one byte, and that byte is read as its number. -/
theorem IsDigit.value (isDigit : IsDigit c n) (small : n < 16) :
    ∃ b, Utf8.encodeChar c = [b] ∧ value? b = some (UInt8.ofNat n) := by
  have lower : ∀ n < 16, Utf8.encodeChar (digit n) = [UInt8.ofNat (digit n).toNat] ∧
      value? (UInt8.ofNat (digit n).toNat) = some (UInt8.ofNat n) := by decide
  have upper : ∀ n < 16,
      Utf8.encodeChar (digit n).toUpper = [UInt8.ofNat (digit n).toUpper.toNat] ∧
      value? (UInt8.ofNat (digit n).toUpper.toNat) = some (UInt8.ofNat n) := by decide
  rcases isDigit with rfl | rfl
  · exact ⟨_, lower n small⟩
  · exact ⟨_, upper n small⟩

theorem IsDigit.solid (isDigit : IsDigit c n) (small : n < 16) :
    Blank.isBlank c = false ∧ c ≠ '#' := by
  have lower : ∀ n < 16, Blank.isBlank (digit n) = false ∧ digit n ≠ '#' := by decide
  have upper : ∀ n < 16,
      Blank.isBlank (digit n).toUpper = false ∧ (digit n).toUpper ≠ '#' := by decide
  rcases isDigit with rfl | rfl
  · exact lower n small
  · exact upper n small

end

/-- The two digits of a byte make that byte. -/
theorem ofNat_digits (b : UInt8) :
    UInt8.ofNat (b.toNat / 16) * 16 + UInt8.ofNat (b.toNat % 16) = b := by
  have small := b.toNat_lt
  rw [← UInt8.toNat_inj, UInt8.toNat_add, UInt8.toNat_mul, Utf8.toNat_ofNat_of_lt (by omega),
    Utf8.toNat_ofNat_of_lt (by omega), show (16 : UInt8).toNat = 16 from rfl]
  omega

/-! ## Texts -/

namespace Spells

variable {digits : List Char} {bytes : Bytes}

theorem solid (spells : Spells digits bytes) :
    ∀ c ∈ digits, Blank.isBlank c = false ∧ c ≠ '#' := by
  induction spells with
  | nil => nofun
  | @cons high low b digits bytes isHigh isLow rest ih =>
    have size := b.toNat_lt
    simp only [List.forall_mem_cons]
    exact ⟨isHigh.solid (by omega), isLow.solid (by omega), ih⟩

theorem length_encode (spells : Spells digits bytes) :
    (Utf8.encode digits).length = 2 * bytes.length := by
  induction spells with
  | nil => rfl
  | @cons high low b digits bytes isHigh isLow rest ih =>
    have size := b.toNat_lt
    obtain ⟨first, isFirst, -⟩ := isHigh.value (by omega)
    obtain ⟨second, isSecond, -⟩ := isLow.value (by omega)
    have split : Utf8.encode (high :: low :: digits) =
        Utf8.encodeChar high ++ (Utf8.encodeChar low ++ Utf8.encode digits) := rfl
    rw [split, isFirst, isSecond, List.length_append, List.length_append, ih]
    simp only [List.length_cons, List.length_nil]
    omega

theorem decodeOnto_encode (spells : Spells digits bytes) (done : Bytes) (index : Nat) :
    decodeOnto done index (Utf8.encode digits) = .ok (done.reverse ++ bytes) := by
  induction spells generalizing done index with
  | nil => simp [Utf8.encode, decodeOnto]
  | @cons high low b digits bytes isHigh isLow rest ih =>
    have size := b.toNat_lt
    obtain ⟨first, isFirst, highValue⟩ := isHigh.value (by omega)
    obtain ⟨second, isSecond, lowValue⟩ := isLow.value (by omega)
    have split : Utf8.encode (high :: low :: digits) =
        Utf8.encodeChar high ++ (Utf8.encodeChar low ++ Utf8.encode digits) := rfl
    rw [split, isFirst, isSecond, List.singleton_append, List.singleton_append, decodeOnto]
    simp only [highValue, lowValue]
    rw [ih, ofNat_digits, List.reverse_cons, List.append_assoc, List.singleton_append]

/-- Digits are read as the bytes that they spell. -/
theorem decode_digits (spells : Spells digits bytes) :
    decode (Utf8.encode digits) = .ok bytes := by
  have even : ¬ (Utf8.encode digits).length % 2 = 1 := by
    rw [spells.length_encode]
    omega
  rw [decode, if_neg even, spells.decodeOnto_encode]
  rfl

theorem trim_append (spells : Spells digits bytes) {before after : List Char}
    (front : ∀ c ∈ before, Blank.isBlank c = true)
    (behind : ∀ c ∈ after, Blank.isBlank c = true) :
    Blank.trim (before ++ digits ++ after) = digits :=
  Blank.trim_append front (fun c member => (spells.solid c member).1) behind

end Spells

end Hex

end SftpWire
