/-!
Byte strings, and the cut that every reader makes: a given number of bytes off the front, or
nothing at all when fewer are there. Main statements: `split?_append` and `split?_eq_some_iff`
say what a successful cut is, `split?_eq_none_iff` says when there is none.
-/

namespace SftpWire

/-- A byte string, front first. -/
abbrev Bytes := List UInt8

namespace Bytes

/-- Whether at least `n` bytes are there. Looks at no more than `n` of them, so a count that a
peer has made up costs only what was sent. -/
def holds : Nat → Bytes → Bool
  | 0, _ => true
  | _ + 1, [] => false
  | n + 1, _ :: rest => holds n rest

/-- The first `n` bytes and what follows them, or `none` when fewer than `n` are there. -/
def split? (n : Nat) (bytes : Bytes) : Option (Bytes × Bytes) :=
  if holds n bytes then some (bytes.take n, bytes.drop n) else none

/-- The number of bytes of values in a row. -/
def rowSize {α : Type} (size : α → Nat) : List α → Nat
  | [] => 0
  | value :: values => size value + rowSize size values

theorem holds_iff : ∀ (n : Nat) (bytes : Bytes), holds n bytes = true ↔ n ≤ bytes.length
  | 0, _ => by simp [holds]
  | _ + 1, [] => by simp [holds]
  | n + 1, _ :: rest => by simp [holds, holds_iff n rest]

theorem split?_append (front rest : Bytes) :
    split? front.length (front ++ rest) = some (front, rest) := by
  simp [split?, (holds_iff _ _).2]

theorem split?_eq_some_iff {n : Nat} {bytes front rest : Bytes} :
    split? n bytes = some (front, rest) ↔ bytes = front ++ rest ∧ front.length = n := by
  constructor
  · intro h
    unfold split? at h
    split at h
    · next held =>
      have enough := (holds_iff n bytes).1 held
      simp only [Option.some.injEq, Prod.mk.injEq] at h
      obtain ⟨rfl, rfl⟩ := h
      exact ⟨(List.take_append_drop n bytes).symm, by simp [enough]⟩
    · simp at h
  · rintro ⟨rfl, rfl⟩
    exact split?_append front rest

theorem split?_eq_none_iff {n : Nat} {bytes : Bytes} :
    split? n bytes = none ↔ bytes.length < n := by
  simp [split?, holds_iff]

end Bytes

end SftpWire
