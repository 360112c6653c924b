/-!
The digits of numbers. Each of them is the digit of a number below the base, and taken together they
have the value of the number, whatever function reads a single one.
-/

namespace SftpWire.Digits

variable {base : Nat} (more : 1 < base)

include more

theorem exists_of_mem_toDigits {n : Nat} {c : Char} (member : c ∈ Nat.toDigits base n) :
    ∃ k < base, c = Nat.digitChar k := by
  induction n using Nat.strongRecOn with
  | ind n ih =>
    rw [Nat.toDigits_eq_if more] at member
    split at member
    · next small => exact ⟨n, small, List.mem_singleton.1 member⟩
    · rcases List.mem_append.1 member with front | last
      · exact ih _ (Nat.div_lt_self (by omega) more) front
      · exact ⟨n % base, Nat.mod_lt n (Nat.zero_lt_of_lt more), List.mem_singleton.1 last⟩

theorem foldl_toDigits {value : Char → Nat} (exact : ∀ k < base, value (Nat.digitChar k) = k)
    (n : Nat) :
    (Nat.toDigits base n).foldl (fun high c => high * base + value c) 0 = n := by
  induction n using Nat.strongRecOn with
  | ind n ih =>
    rw [Nat.toDigits_eq_if more]
    split
    · next small => simp [exact n small]
    · have digit := exact (n % base) (Nat.mod_lt n (Nat.zero_lt_of_lt more))
      rw [List.foldl_append, ih _ (Nat.div_lt_self (by omega) more), List.foldl_cons,
        List.foldl_nil, digit]
      exact Nat.div_add_mod' n base

end SftpWire.Digits
