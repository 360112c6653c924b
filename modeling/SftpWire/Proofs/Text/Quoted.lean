import SftpWire.Proofs.Text.Legible
import SftpWire.Proofs.Text.Lossy

/-!
Quoted text read back. `readChar` takes the first character off what stands between the quotes,
whether it is escaped or not, and it undoes both ways of quoting in front of any other characters
(`readChar_charBy_append`, `readChar_byte_append`). What is quoted is therefore known from its
quotation, and text is not mistaken for bytes because these are quoted behind a `b`. Main statement:
`string_identifies`.
-/

namespace SftpWire.Quoted

/-! ## Reading one character -/

/-- The value of a hexadecimal digit in lower case. -/
def digitValue (c : Char) : Nat :=
  if c.toNat < 0x3A then c.toNat - 0x30 else c.toNat - 0x57

/-- The number of hexadecimal digits in lower case. -/
def ofDigits (digits : List Char) : Nat :=
  digits.foldl (fun high c => high * 16 + digitValue c) 0

/-- What is escaped by a letter; every other character is escaped by itself. -/
def ofLetter (c : Char) : Char :=
  if c = '0' then '\x00' else if c = 't' then '\t' else if c = 'n' then '\n'
  else if c = 'r' then '\r' else c

/-- The character of an escape, without its backslash, and what follows it. -/
def readEscape (letter : Char) (rest : List Char) : Char × List Char :=
  if letter = 'u' then
    let digits := (rest.drop 1).takeWhile (· != '\x7d')
    (Char.ofNat (ofDigits digits), rest.drop (digits.length + 2))
  else if letter = 'x' then (Char.ofNat (ofDigits (rest.take 2)), rest.drop 2)
  else (ofLetter letter, rest)

/-- The first character of quoted text, and what follows it. -/
def readChar : List Char → Option (Char × List Char)
  | [] => none
  | c :: rest =>
    if c = '\x5c' then
      match rest with
      | [] => none
      | letter :: rest => some (readEscape letter rest)
    else some (c, rest)

theorem digitValue_digitChar : ∀ n < 16, digitValue (Nat.digitChar n) = n := by
  decide

theorem digitValue_digit : ∀ n < 16, digitValue (Hex.digit n) = n := by
  decide

theorem ofDigits_toDigits (n : Nat) : ofDigits (Nat.toDigits 16 n) = n :=
  Digits.foldl_toDigits (by decide) digitValue_digitChar n

theorem ofDigits_ofByte (b : UInt8) : ofDigits (Hex.ofByte b) = b.toNat := by
  have small := b.toNat_lt
  have high := digitValue_digit (b.toNat / 16) (by omega)
  have low := digitValue_digit (b.toNat % 16) (by omega)
  simp only [ofDigits, Hex.ofByte, List.foldl_cons, List.foldl_nil, high, low]
  omega

theorem ne_brace_of_mem_toDigits {n : Nat} {c : Char} (member : c ∈ Nat.toDigits 16 n) :
    c ≠ '\x7d' := by
  have other : ∀ k < 16, Nat.digitChar k ≠ '\x7d' := by decide
  obtain ⟨k, small, rfl⟩ := Digits.exists_of_mem_toDigits (by decide) member
  exact other k small

/-! ## Quotation undone -/

theorem readChar_of_ne {c : Char} (plain : c ≠ '\x5c') (rest : List Char) :
    readChar (c :: rest) = some (c, rest) :=
  if_neg plain

/-- The characters that have a letter of their own are read back from it. -/
theorem readEscape_of_letter {n : Nat} {letter : Char} (isLetter : letter? n = some letter)
    (rest : List Char) : readEscape letter rest = (Char.ofNat n, rest) := by
  rw [letter?] at isLetter
  repeat' split at isLetter
  all_goals cases isLetter
  all_goals
    next isNumber =>
      rw [isNumber]
      rfl

theorem readEscape_number (n : Nat) (rest : List Char) :
    readEscape 'u' ('\x7b' :: (Nat.toDigits 16 n ++ '\x7d' :: rest)) = (Char.ofNat n, rest) := by
  have digits : (Nat.toDigits 16 n ++ '\x7d' :: rest).takeWhile (· != '\x7d') =
      Nat.toDigits 16 n := by
    rw [List.takeWhile_append_of_pos fun c member => by simpa using ne_brace_of_mem_toDigits member]
    simp
  simp only [readEscape, if_true, List.drop_succ_cons, List.drop_zero, digits, ofDigits_toDigits]
  simp

theorem readEscape_byte (b : UInt8) (rest : List Char) :
    readEscape 'x' (Hex.ofByte b ++ rest) = (Char.ofNat b.toNat, rest) := by
  have digits : (Hex.ofByte b ++ rest).take 2 = Hex.ofByte b := rfl
  have behind : (Hex.ofByte b ++ rest).drop 2 = rest := rfl
  have other : 'x' ≠ 'u' := by decide
  rw [readEscape, if_neg other, if_pos rfl, digits, behind, ofDigits_ofByte]

/-- Marks are escaped by themselves. -/
theorem readEscape_mark {c : Char} (isMark : c = '\x22' ∨ c = '\x5c') (rest : List Char) :
    readEscape c rest = (c, rest) := by
  rcases isMark with rfl | rfl
  · rfl
  · rfl

theorem readChar_charBy_append (hidden : Char → Bool) (c : Char) (rest : List Char) :
    readChar (charBy hidden '\x22' c ++ rest) = some (c, rest) := by
  rw [charBy]
  split
  · next marked =>
    simp only [Bool.or_eq_true, decide_eq_true_eq] at marked
    exact congrArg some (readEscape_mark marked rest)
  · next unmarked =>
    simp only [Bool.or_eq_true, decide_eq_true_eq, not_or] at unmarked
    split
    · next letter isLetter =>
      have read := readEscape_of_letter isLetter rest
      rw [Char.ofNat_toNat] at read
      exact congrArg some read
    · split
      · have read := readEscape_number c.toNat rest
        rw [Char.ofNat_toNat] at read
        simp only [List.cons_append, List.nil_append, List.append_assoc]
        exact congrArg some read
      · exact readChar_of_ne unmarked.2 rest

theorem readChar_byte_append (b : UInt8) (rest : List Char) :
    readChar (byte b ++ rest) = some (Char.ofNat b.toNat, rest) := by
  rw [byte]
  split
  · next marked =>
    have isMark : Char.ofNat b.toNat = '\x22' ∨ Char.ofNat b.toNat = '\x5c' := by
      simp only [Bool.or_eq_true, decide_eq_true_eq] at marked
      rcases marked with rfl | rfl
      · exact .inl rfl
      · exact .inr rfl
    exact congrArg some (readEscape_mark isMark rest)
  · next unmarked =>
    simp only [Bool.or_eq_true, decide_eq_true_eq, not_or] at unmarked
    split
    · next letter isLetter => exact congrArg some (readEscape_of_letter isLetter rest)
    · split
      · have plain : Char.ofNat b.toNat ≠ '\x5c' := by
          intro same
          have number := congrArg Char.toNat same
          rw [toNat_ofNat_toNat] at number
          exact unmarked.2 (UInt8.toNat_inj.1 number)
        exact readChar_of_ne plain rest
      · exact congrArg some (readEscape_byte b rest)

/-! ## Contents -/

section

variable {α : Type} {spell : α → List Char} {value : α → Char}

/-- Where every character can be read back, whatever follows it, all of them can be. -/
theorem eq_of_flatMap_eq (injective : ∀ a a', value a = value a' → a = a')
    (reads : ∀ a rest, readChar (spell a ++ rest) = some (value a, rest))
    {content content' : List α} (same : content.flatMap spell = content'.flatMap spell) :
    content = content' := by
  induction content generalizing content' with
  | nil =>
    cases content' with
    | nil => rfl
    | cons a' content' =>
      have read := reads a' (content'.flatMap spell)
      rw [← List.flatMap_cons, ← same] at read
      cases read
  | cons a content ih =>
    have read := reads a (content.flatMap spell)
    rw [← List.flatMap_cons, same] at read
    cases content' with
    | nil => cases read
    | cons a' content' =>
      rw [List.flatMap_cons, reads, Option.some.injEq, Prod.mk.injEq] at read
      rw [injective a' a read.1, ih read.2.symm]

end

theorem textBy_inj {hidden : Char → Bool} {content content' : List Char}
    (same : textBy hidden content = textBy hidden content') : content = content' := by
  rw [textBy, textBy, List.append_cancel_right_eq, List.append_cancel_left_eq] at same
  exact eq_of_flatMap_eq (fun _ _ => id) (readChar_charBy_append hidden) same

theorem bytes_inj {content content' : Bytes} (same : bytes content = bytes content') :
    content = content' := by
  rw [bytes, bytes, List.append_cancel_right_eq, List.append_cancel_left_eq] at same
  refine eq_of_flatMap_eq (fun b b' equal => ?_) readChar_byte_append same
  have number := congrArg Char.toNat equal
  rw [toNat_ofNat_toNat, toNat_ofNat_toNat] at number
  exact UInt8.toNat_inj.1 number

/-- Text and bytes are told apart by what stands in front. -/
theorem textBy_ne_bytes (hidden : Char → Bool) (content : List Char) (content' : Bytes) :
    textBy hidden content ≠ bytes content' := by
  intro same
  have first := congrArg List.head? same
  simp [textBy, bytes] at first

theorem stringBy_inj {hidden : Char → Bool} {content content' : Bytes}
    (same : stringBy hidden content = stringBy hidden content') : content = content' := by
  rw [stringBy, stringBy] at same
  split at same
  · next text isText =>
    split at same
    · next text' isText' =>
      rw [Utf8.decode?_eq_some_iff.1 isText, Utf8.decode?_eq_some_iff.1 isText', textBy_inj same]
    · exact absurd same (textBy_ne_bytes hidden text content')
  · split at same
    · next text' isText' => exact absurd same.symm (textBy_ne_bytes hidden text' content)
    · exact bytes_inj same

/-- Strings that are shown alike are the same, bytes and text among them, although their lossy texts
can be the same where they are not; and what is shown stands on one line. Both hold whichever
characters are escaped by number, if only the control characters are. -/
theorem string_identifies :
    (∀ content content', string content = string content' ↔ content = content') ∧
    (∀ content, ∀ c ∈ string content, 0x20 ≤ c.toNat) ∧
    (∃ content content', content ≠ content' ∧ Utf8.lossy content = Utf8.lossy content') ∧
    ∀ hidden, Covers hidden →
      (∀ content content', stringBy hidden content = stringBy hidden content' ↔
        content = content') ∧
      ∀ content, ∀ c ∈ stringBy hidden content, 0x20 ≤ c.toNat := by
  have classes (hidden : Char → Bool) (content content' : Bytes) :
      stringBy hidden content = stringBy hidden content' ↔ content = content' := by
    constructor
    · exact stringBy_inj
    · rintro rfl
      rfl
  refine ⟨classes isHidden, fun content c => le_toNat_of_mem_stringBy covers_isHidden,
    ⟨[0xFE], [0xFF], ?_⟩, ?_⟩
  · decide
  · intro hidden covers
    exact ⟨classes hidden, fun content c => le_toNat_of_mem_stringBy covers⟩

/-- A byte, and the text that looks like its quotation; an accent, which is escaped by number, and
the text that looks like that; and the two where the accent is shown as it is. -/
theorem string_identifies_sample :
    string [0xFF] ≠ string [0x62, 0x22, 0x5C, 0x78, 0x66, 0x66, 0x22] ∧
      string [0xCC, 0x81] = ['\x22', '\x5c', 'u', '\x7b', '3', '0', '1', '\x7d', '\x22'] ∧
      string [0xCC, 0x81] ≠ string [0x5C, 0x75, 0x7B, 0x33, 0x30, 0x31, 0x7D] ∧
      stringBy (fun c => c.toNat < 0x20) [0xCC, 0x81] = ['\x22', '\u0301', '\x22'] ∧
      stringBy (fun c => c.toNat < 0x20) [0xCC, 0x81] ≠
        stringBy (fun c => c.toNat < 0x20) [0x5C, 0x75, 0x7B, 0x33, 0x30, 0x31, 0x7D] := by
  obtain ⟨shown, -, -, classes⟩ := string_identifies
  have covers : Covers fun c => c.toNat < 0x20 := fun c control => decide_eq_true control
  have apart := (classes _ covers).1 [0xCC, 0x81] [0x5C, 0x75, 0x7B, 0x33, 0x30, 0x31, 0x7D]
  refine ⟨(not_congr (shown _ _)).2 (by decide), by decide +kernel,
    (not_congr (shown _ _)).2 (by decide), by decide, (not_congr apart).2 (by decide)⟩

end SftpWire.Quoted
