import SftpWire.Wire.Bytes

/-!
Numbers as big-endian bytes: the most significant digit in base 256 comes first. Main statements:
`value_bigEndian` and `bigEndian_value`, the two directions between a number that fits and its
bytes.
-/

namespace SftpWire.Bytes

/-- The low `width` base-256 digits of a number, most significant first. -/
def bigEndian : (width : Nat) → (n : Nat) → Bytes
  | 0, _ => []
  | width + 1, n => bigEndian width (n / 256) ++ [UInt8.ofNat n]

/-- The number that bytes stand for, most significant first. -/
def value (bytes : Bytes) : Nat :=
  bytes.foldl (fun high byte => high * 256 + byte.toNat) 0

@[simp] theorem value_nil : value [] = 0 := rfl

@[simp] theorem value_concat (bytes : Bytes) (last : UInt8) :
    value (bytes ++ [last]) = value bytes * 256 + last.toNat := by
  simp [value]

@[simp] theorem length_bigEndian : ∀ width n, (bigEndian width n).length = width
  | 0, _ => rfl
  | width + 1, n => by simp [bigEndian, length_bigEndian width]

theorem value_bigEndian (width n : Nat) (small : n < Nat.pow 256 width) :
    value (bigEndian width n) = n := by
  induction width generalizing n with
  | zero =>
    obtain rfl := Nat.lt_one_iff.1 small
    rfl
  | succ width ih =>
    have high : n / 256 < Nat.pow 256 width := by
      rw [Nat.div_lt_iff_lt_mul (by decide)]
      exact small
    simp only [bigEndian, value_concat, ih _ high, UInt8.toNat_ofNat']
    omega

theorem bigEndian_concat (width high : Nat) (last : UInt8) :
    bigEndian (width + 1) (high * 256 + last.toNat) = bigEndian width high ++ [last] := by
  have small := last.toNat_lt
  have quotient : (high * 256 + last.toNat) / 256 = high := by omega
  have digit : UInt8.ofNat (high * 256 + last.toNat) = last := by
    apply UInt8.toNat_inj.1
    rw [UInt8.toNat_ofNat']
    omega
  rw [bigEndian, quotient, digit]

theorem bigEndian_value (bytes : Bytes) : bigEndian bytes.length (value bytes) = bytes := by
  suffices ∀ reversed : Bytes,
      bigEndian reversed.reverse.length (value reversed.reverse) = reversed.reverse by
    simpa using this bytes.reverse
  intro reversed
  induction reversed with
  | nil => rfl
  | cons last before ih =>
    rw [List.reverse_cons, value_concat, List.length_append, List.length_singleton,
      bigEndian_concat, ih]

theorem value_lt (bytes : Bytes) : value bytes < Nat.pow 256 bytes.length := by
  suffices ∀ reversed : Bytes,
      value reversed.reverse < Nat.pow 256 reversed.reverse.length by
    simpa using this bytes.reverse
  intro reversed
  induction reversed with
  | nil => exact Nat.one_pos
  | cons last before ih =>
    have small := last.toNat_lt
    rw [List.reverse_cons, value_concat, List.length_append, List.length_singleton]
    show _ < Nat.pow 256 before.reverse.length * 256
    omega

end SftpWire.Bytes
