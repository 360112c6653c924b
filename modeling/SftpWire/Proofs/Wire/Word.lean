/-!
Bits of words. Masks that are put together take from a word what each of them takes, so a word is
known under a mask when it is known bit by bit.
-/

namespace SftpWire.Word

theorem or_and (a b c : UInt32) : (a ||| b) &&& c = (a &&& c) ||| (b &&& c) :=
  UInt32.toBitVec_inj.1 BitVec.and_or_distrib_right

theorem and_or (a b c : UInt32) : a &&& (b ||| c) = (a &&& b) ||| (a &&& c) :=
  UInt32.toBitVec_inj.1 BitVec.and_or_distrib_left

/-- One bit of a word is that bit or nothing. -/
theorem and_eq_zero_or_eq (word : UInt32) {flag : UInt32} {n : Nat}
    (single : flag.toBitVec = BitVec.twoPow 32 n) : word &&& flag = 0 ∨ word &&& flag = flag := by
  simp only [← UInt32.toBitVec_inj, UInt32.toBitVec_and, single, BitVec.and_twoPow]
  split
  · exact .inr rfl
  · exact .inl rfl

/-- Words that agree on each of some bits agree on all of them together. -/
theorem and_foldr_eq {word word' : UInt32} {bits : List UInt32}
    (each : ∀ bit ∈ bits, word &&& bit = word' &&& bit) :
    word &&& bits.foldr (· ||| ·) 0 = word' &&& bits.foldr (· ||| ·) 0 := by
  induction bits with
  | nil => simp only [List.foldr_nil, UInt32.and_zero]
  | cons bit bits ih =>
    obtain ⟨first, others⟩ := List.forall_mem_cons.1 each
    rw [List.foldr_cons, and_or, and_or, first, ih others]

end SftpWire.Word
