import SftpWire.Wire.BigEndian
import SftpWire.Wire.Reader

/-!
The primitives that every packet is made of: bytes, flags, big-endian words of two, four and eight
bytes, and strings that carry their length in a word before them. Each has a writer on `Bytes` and a
reader. Main statements: the pairs `run_x_ofX` and `run_x_eq_done`, which say that a reader undoes
its writer in front of any other bytes and accepts nothing else.
-/

namespace SftpWire

namespace Bytes

/-- A flag is one byte, one or zero. -/
def ofFlag (flag : Bool) : Bytes := [if flag then 1 else 0]

def ofWord16 (word : UInt16) : Bytes := bigEndian 2 word.toNat

def ofWord32 (word : UInt32) : Bytes := bigEndian 4 word.toNat

def ofWord64 (word : UInt64) : Bytes := bigEndian 8 word.toNat

/-- A length as a word; one that does not fit is written as the largest word. -/
def lengthWord (n : Nat) : UInt32 :=
  if n < 4294967296 then UInt32.ofNat n else 4294967295

/-- A string is its length and then its bytes. The two always agree: bytes beyond the largest
length are left out. -/
def ofString (string : Bytes) : Bytes :=
  ofWord32 (lengthWord string.length) ++ string.take (lengthWord string.length).toNat

@[simp] theorem length_ofWord16 (word : UInt16) : (ofWord16 word).length = 2 := by simp [ofWord16]

@[simp] theorem length_ofWord32 (word : UInt32) : (ofWord32 word).length = 4 := by simp [ofWord32]

@[simp] theorem length_ofWord64 (word : UInt64) : (ofWord64 word).length = 8 := by simp [ofWord64]

theorem lengthWord_toNat {n : Nat} (small : n < 4294967296) : (lengthWord n).toNat = n := by
  rw [lengthWord, if_pos small, UInt32.toNat_ofNat']
  omega

theorem ofString_eq {string : Bytes} (small : string.length < 4294967296) :
    ofString string = ofWord32 (UInt32.ofNat string.length) ++ string := by
  rw [ofString, lengthWord_toNat small, List.take_length, lengthWord, if_pos small]

theorem length_ofString {string : Bytes} (small : string.length < 4294967296) :
    (ofString string).length = 4 + string.length := by
  simp [ofString_eq small]

end Bytes

namespace Reader

open Bytes

/-- Exactly `n` bytes; a failure takes none. -/
def raw (n : Nat) : Reader Bytes :=
  ⟨fun bytes =>
    match split? n bytes with
    | some (front, rest) => .done front rest
    | none => .short bytes⟩

/-- All the bytes that are left. -/
def remaining : Reader Bytes := ⟨fun bytes => .done bytes []⟩

def byte : Reader UInt8 :=
  ⟨fun bytes =>
    match bytes with
    | first :: rest => .done first rest
    | [] => .short []⟩

/-- A flag: every byte but zero is true. -/
def flag : Reader Bool := (· != 0) <$> byte

def word16 : Reader UInt16 := (fun front => UInt16.ofNat (value front)) <$> raw 2

def word32 : Reader UInt32 := (fun front => UInt32.ofNat (value front)) <$> raw 4

def word64 : Reader UInt64 := (fun front => UInt64.ofNat (value front)) <$> raw 8

/-- A string: a length, then that many bytes. When the bytes fall short of the length, the length
has been taken all the same. -/
def string : Reader Bytes := do
  let length ← word32
  raw length.toNat

/-- A string read into `destination`, which is cut to nothing before the bytes are put behind it. -/
def stringInto (destination : Bytes) : Reader Bytes :=
  ⟨fun bytes =>
    match word32.run bytes with
    | .short rest => .short rest
    | .done length rest =>
      if holds length.toNat rest then
        .done (destination.take 0 ++ rest.take length.toNat) (rest.drop length.toNat)
      else
        .short rest⟩

theorem run_raw_append (front rest : Bytes) :
    (raw front.length).run (front ++ rest) = .done front rest := by
  simp [raw, split?_append]

theorem run_raw_eq_done {n : Nat} {bytes front rest : Bytes} :
    (raw n).run bytes = .done front rest ↔ bytes = front ++ rest ∧ front.length = n := by
  rw [← split?_eq_some_iff]
  cases cut : split? n bytes with
  | none => simp [raw, cut]
  | some pair => simp [raw, cut, Prod.ext_iff]

theorem run_raw_eq_short {n : Nat} {bytes rest : Bytes} :
    (raw n).run bytes = .short rest ↔ bytes.length < n ∧ rest = bytes := by
  rw [← split?_eq_none_iff]
  cases cut : split? n bytes with
  | none => simp [raw, cut, eq_comm]
  | some pair => simp [raw, cut]

@[simp] theorem run_word16_ofWord16 (word : UInt16) (rest : Bytes) :
    word16.run (ofWord16 word ++ rest) = .done word rest := by
  have read := run_raw_append (ofWord16 word) rest
  rw [length_ofWord16] at read
  rw [word16, run_map, read, Outcome.bind_done, ofWord16, value_bigEndian 2 _ word.toNat_lt,
    UInt16.ofNat_toNat]

@[simp] theorem run_word32_ofWord32 (word : UInt32) (rest : Bytes) :
    word32.run (ofWord32 word ++ rest) = .done word rest := by
  have read := run_raw_append (ofWord32 word) rest
  rw [length_ofWord32] at read
  rw [word32, run_map, read, Outcome.bind_done, ofWord32, value_bigEndian 4 _ word.toNat_lt,
    UInt32.ofNat_toNat]

@[simp] theorem run_word64_ofWord64 (word : UInt64) (rest : Bytes) :
    word64.run (ofWord64 word ++ rest) = .done word rest := by
  have read := run_raw_append (ofWord64 word) rest
  rw [length_ofWord64] at read
  rw [word64, run_map, read, Outcome.bind_done, ofWord64, value_bigEndian 8 _ word.toNat_lt,
    UInt64.ofNat_toNat]

theorem run_word16_eq_done {bytes rest : Bytes} {word : UInt16} :
    word16.run bytes = .done word rest ↔ bytes = ofWord16 word ++ rest := by
  refine ⟨fun read => ?_, fun split => split ▸ run_word16_ofWord16 word rest⟩
  rw [word16, run_map, Outcome.bind_eq_done] at read
  obtain ⟨front, last, read, made⟩ := read
  obtain ⟨rfl, width⟩ := run_raw_eq_done.1 read
  simp only [Outcome.done.injEq] at made
  obtain ⟨rfl, rfl⟩ := made
  have small := value_lt front
  rw [width] at small
  rw [ofWord16, UInt16.toNat_ofNat_of_lt' small, ← width, bigEndian_value]

theorem run_word32_eq_done {bytes rest : Bytes} {word : UInt32} :
    word32.run bytes = .done word rest ↔ bytes = ofWord32 word ++ rest := by
  refine ⟨fun read => ?_, fun split => split ▸ run_word32_ofWord32 word rest⟩
  rw [word32, run_map, Outcome.bind_eq_done] at read
  obtain ⟨front, last, read, made⟩ := read
  obtain ⟨rfl, width⟩ := run_raw_eq_done.1 read
  simp only [Outcome.done.injEq] at made
  obtain ⟨rfl, rfl⟩ := made
  have small := value_lt front
  rw [width] at small
  rw [ofWord32, UInt32.toNat_ofNat_of_lt' small, ← width, bigEndian_value]

theorem run_word64_eq_done {bytes rest : Bytes} {word : UInt64} :
    word64.run bytes = .done word rest ↔ bytes = ofWord64 word ++ rest := by
  refine ⟨fun read => ?_, fun split => split ▸ run_word64_ofWord64 word rest⟩
  rw [word64, run_map, Outcome.bind_eq_done] at read
  obtain ⟨front, last, read, made⟩ := read
  obtain ⟨rfl, width⟩ := run_raw_eq_done.1 read
  simp only [Outcome.done.injEq] at made
  obtain ⟨rfl, rfl⟩ := made
  have small := value_lt front
  rw [width] at small
  rw [ofWord64, UInt64.toNat_ofNat_of_lt' small, ← width, bigEndian_value]

theorem run_string_ofString {text : Bytes} (small : text.length < 4294967296) (rest : Bytes) :
    string.run (ofString text ++ rest) = .done text rest := by
  have length : (UInt32.ofNat text.length).toNat = text.length :=
    UInt32.toNat_ofNat_of_lt' small
  rw [string, run_bind, ofString_eq small, List.append_assoc, run_word32_ofWord32,
    Outcome.bind_done, length, run_raw_append]

theorem run_string_eq_done {bytes text rest : Bytes} :
    string.run bytes = .done text rest ↔
      bytes = ofString text ++ rest ∧ text.length < 4294967296 := by
  constructor
  · intro read
    rw [string, run_bind, Outcome.bind_eq_done] at read
    obtain ⟨length, middle, first, second⟩ := read
    obtain ⟨rfl, width⟩ := run_raw_eq_done.1 second
    have small : text.length < 4294967296 := width ▸ length.toNat_lt
    refine ⟨?_, small⟩
    rw [run_word32_eq_done.1 first, ofString_eq small, width, UInt32.ofNat_toNat,
      List.append_assoc]
  · rintro ⟨rfl, small⟩
    exact run_string_ofString small rest

end Reader

end SftpWire
