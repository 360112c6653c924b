import SftpWire.Proofs.Text.Digits
import SftpWire.Proofs.Text.Utf8
import SftpWire.Text.Shape

/-!
Texts that stand on one line. A text is `Legible` when it has no character before the blank, so no
end of line either, and its UTF-8 form then has no byte below that of the blank
(`Legible.le_of_mem_ofString`). What is quoted is legible whatever its content (`legible_string`,
`legible_bytes`), and with that every text of a structured value whose names are.
-/

namespace SftpWire

/-- No character comes before the blank, in number. -/
def Legible (text : String) : Prop :=
  ∀ c ∈ text.toList, 0x20 ≤ c.toNat

/-! ## Putting texts together -/

@[simp] theorem legible_append {text text' : String} :
    Legible (text ++ text') ↔ Legible text ∧ Legible text' := by
  simp only [Legible, String.toList_append, List.mem_append, or_imp, forall_and]

theorem legible_ofList {text : List Char} :
    Legible (String.ofList text) ↔ ∀ c ∈ text, 0x20 ≤ c.toNat := by
  rw [Legible, String.toList_ofList]

theorem legible_intercalate {separator : String} (isSeparator : Legible separator)
    {items : List String} (legible : ∀ item ∈ items, Legible item) :
    Legible (separator.intercalate items) := by
  induction items with
  | nil => simp [Legible]
  | cons item items ih =>
    obtain ⟨first, others⟩ := List.forall_mem_cons.1 legible
    cases items with
    | nil => simpa using first
    | cons next items =>
      rw [String.intercalate_cons_cons]
      exact legible_append.2 ⟨legible_append.2 ⟨first, isSeparator⟩, ih others⟩

theorem le_toNat_digitChar : ∀ n < 16, 0x20 ≤ (Nat.digitChar n).toNat := by
  decide

theorem le_toNat_of_mem_toDigits {base n : Nat} (more : 1 < base) (most : base ≤ 16) {c : Char}
    (member : c ∈ Nat.toDigits base n) : 0x20 ≤ c.toNat := by
  obtain ⟨k, small, rfl⟩ := Digits.exists_of_mem_toDigits more member
  exact le_toNat_digitChar k (by omega)

@[simp] theorem legible_repr (n : Nat) : Legible n.repr := by
  rw [Legible, Nat.toList_repr]
  exact fun c => le_toNat_of_mem_toDigits (by decide) (by decide)

/-- A text that is put into another stands there as it is. -/
@[simp] theorem toString_text (text : String) : toString text = text :=
  rfl

/-! ## Quoted text

Tables of the characters that can be shown grow with every version of Unicode, so what is said of
quoted text is said of any class of characters to be escaped by number that has those before the
blank in it (`Quoted.Covers`). `Quoted.isHidden` is one of these. -/

namespace Quoted

/-- The characters before the blank are in a class. -/
def Covers (hidden : Char → Bool) : Prop :=
  ∀ c : Char, c.toNat < 0x20 → hidden c = true

theorem covers_isHidden : Covers isHidden := by
  intro c control
  have ascii : c.toNat < 0x7F := by omega
  have notPrintable : Printable.isPrintable c = false := by
    simp [Printable.isPrintable, ascii, control]
  rw [isHidden, notPrintable, Bool.not_false, Bool.or_true]

theorem le_toNat_letter {n : Nat} {c : Char} (isLetter : letter? n = some c) :
    0x20 ≤ c.toNat := by
  rw [letter?] at isLetter
  repeat' split at isLetter
  all_goals cases isLetter
  all_goals decide

theorem le_toNat_of_mem_charBy {hidden : Char → Bool} (covers : Covers hidden) {mark c d : Char}
    (isMark : 0x20 ≤ mark.toNat) (member : d ∈ charBy hidden mark c) : 0x20 ≤ d.toNat := by
  rw [charBy] at member
  split at member
  · next marked =>
    have isC : 0x20 ≤ c.toNat := by
      simp only [Bool.or_eq_true, decide_eq_true_eq] at marked
      rcases marked with rfl | rfl
      · exact isMark
      · decide
    simp only [List.mem_cons, List.not_mem_nil, or_false] at member
    rcases member with rfl | rfl
    · decide
    · exact isC
  · split at member
    · next escape isLetter =>
      simp only [List.mem_cons, List.not_mem_nil, or_false] at member
      rcases member with rfl | rfl
      · decide
      · exact le_toNat_letter isLetter
    · split at member
      · simp only [List.mem_append, List.mem_cons, List.not_mem_nil, or_false] at member
        rcases member with ((rfl | rfl | rfl) | digit) | rfl
        all_goals first | decide | exact le_toNat_of_mem_toDigits (by decide) (by decide) digit
      · next shown =>
        obtain rfl := List.mem_singleton.1 member
        exact Nat.le_of_not_lt fun control => shown (covers d control)

theorem le_toNat_of_mem_ofByte {b : UInt8} {c : Char} (member : c ∈ Hex.ofByte b) :
    0x20 ≤ c.toNat := by
  have digit : ∀ n < 16, 0x20 ≤ (Hex.digit n).toNat := by decide
  have small := b.toNat_lt
  simp only [Hex.ofByte, List.mem_cons, List.not_mem_nil, or_false] at member
  rcases member with rfl | rfl
  · exact digit _ (by omega)
  · exact digit _ (by omega)

/-- The character with the number of a byte. -/
theorem toNat_ofNat_toNat (b : UInt8) : (Char.ofNat b.toNat).toNat = b.toNat := by
  have small := b.toNat_lt
  exact Utf8.toNat_ofNat_of_isValidChar (.inl (by omega))

theorem le_toNat_of_mem_byte {b : UInt8} {c : Char} (member : c ∈ byte b) : 0x20 ≤ c.toNat := by
  rw [byte] at member
  split at member
  · next marked =>
    simp only [List.mem_cons, List.not_mem_nil, or_false] at member
    rcases member with rfl | rfl
    · decide
    · simp only [Bool.or_eq_true, decide_eq_true_eq] at marked
      rcases marked with rfl | rfl
      all_goals decide
  · split at member
    · next escape isLetter =>
      simp only [List.mem_cons, List.not_mem_nil, or_false] at member
      rcases member with rfl | rfl
      · decide
      · exact le_toNat_letter isLetter
    · split at member
      · next shown =>
        obtain rfl := List.mem_singleton.1 member
        simp only [Bool.and_eq_true, decide_eq_true_eq, UInt8.le_iff_toNat_le,
          UInt8.reduceToNat] at shown
        rw [toNat_ofNat_toNat]
        exact shown.1
      · rcases List.mem_append.1 member with front | digits
        · simp only [List.mem_cons, List.not_mem_nil, or_false] at front
          rcases front with rfl | rfl
          all_goals decide
        · exact le_toNat_of_mem_ofByte digits

/-- What stands between two marks. -/
theorem le_toNat_of_mem_marked {α : Type} {spell : α → List Char} {content : List α}
    {opening closing : List Char} (opens : ∀ c ∈ opening, 0x20 ≤ c.toNat)
    (spelled : ∀ a, ∀ c ∈ spell a, 0x20 ≤ c.toNat) (closes : ∀ c ∈ closing, 0x20 ≤ c.toNat)
    {c : Char} (member : c ∈ opening ++ content.flatMap spell ++ closing) : 0x20 ≤ c.toNat := by
  rcases List.mem_append.1 member with front | last
  · rcases List.mem_append.1 front with first | inner
    · exact opens c first
    · obtain ⟨a, -, isSpelled⟩ := List.mem_flatMap.1 inner
      exact spelled a c isSpelled
  · exact closes c last

theorem le_toNat_of_mem_textBy {hidden : Char → Bool} (covers : Covers hidden)
    {content : List Char} {c : Char} (member : c ∈ textBy hidden content) : 0x20 ≤ c.toNat :=
  le_toNat_of_mem_marked (by simp) (fun _ _ => le_toNat_of_mem_charBy covers (by decide)) (by simp)
    member

theorem le_toNat_of_mem_bytes {content : Bytes} {c : Char} (member : c ∈ bytes content) :
    0x20 ≤ c.toNat :=
  le_toNat_of_mem_marked (by simp) (fun _ _ => le_toNat_of_mem_byte) (by simp) member

theorem le_toNat_of_mem_singleBy {hidden : Char → Bool} (covers : Covers hidden) {c d : Char}
    (member : d ∈ singleBy hidden c) : 0x20 ≤ d.toNat := by
  have marked : d ∈ ['\x27'] ++ [c].flatMap (charBy hidden '\x27') ++ ['\x27'] := by
    simpa only [singleBy, List.flatMap_singleton] using member
  exact le_toNat_of_mem_marked (by simp)
    (fun _ _ => le_toNat_of_mem_charBy covers (by decide)) (by simp) marked

theorem le_toNat_of_mem_stringBy {hidden : Char → Bool} (covers : Covers hidden) {content : Bytes}
    {c : Char} (member : c ∈ stringBy hidden content) : 0x20 ≤ c.toNat := by
  rw [stringBy] at member
  split at member
  · exact le_toNat_of_mem_textBy covers member
  · exact le_toNat_of_mem_bytes member

end Quoted

/-! ## Structured values -/

namespace Shape

theorem legible_string {hidden : Char → Bool} (covers : Quoted.Covers hidden) (content : Bytes) :
    Legible (string hidden content) :=
  legible_ofList.2 fun _ => Quoted.le_toNat_of_mem_stringBy covers

@[simp] theorem legible_bytes (content : Bytes) : Legible (bytes content) :=
  legible_ofList.2 fun _ => Quoted.le_toNat_of_mem_bytes

@[simp] theorem legible_number (n : Nat) : Legible (number n) :=
  legible_repr n

theorem legible_commas {items : List String} (legible : ∀ item ∈ items, Legible item) :
    Legible (commas items) :=
  legible_intercalate (by simp [Legible]) legible

theorem legible_list {α : Type} {shape : α → String} (legible : ∀ a, Legible (shape a))
    (items : List α) : Legible (list (items.map shape)) := by
  have marks : Legible "[" ∧ Legible "]" := by simp [Legible]
  have inner : Legible (commas (items.map shape)) :=
    legible_commas (by simpa using fun a _ => legible a)
  simp only [list, legible_append, marks, inner, and_true]

@[simp] theorem legible_tagged {name value : String} :
    Legible (tagged name value) ↔ Legible name ∧ Legible value := by
  have marks : Legible "(" ∧ Legible ")" := by simp [Legible]
  simp only [tagged, legible_append, marks, and_true]

theorem legible_record {name : String} (isName : Legible name) {fields : List (String × String)}
    (labels : ∀ field ∈ fields, Legible field.1) (values : ∀ field ∈ fields, Legible field.2) :
    Legible (record name fields) := by
  have marks : Legible " \x7b " ∧ Legible " \x7d" ∧ Legible ": " := by simp [Legible]
  have inner : Legible (commas (fields.map fun field => field.1 ++ ": " ++ field.2)) := by
    refine legible_commas fun item member => ?_
    obtain ⟨field, isField, rfl⟩ := List.mem_map.1 member
    simp only [legible_append, marks, labels field isField, values field isField, and_true]
  simp only [record, legible_append, isName, marks, inner, and_true]

end Shape

/-! ## As bytes -/

theorem Legible.le_of_mem_ofString {text : String} (legible : Legible text) {b : UInt8}
    (member : b ∈ Utf8.ofString text) : 0x20 ≤ b := by
  obtain ⟨c, isChar, isByte⟩ := List.mem_flatMap.1 member
  have low := legible c isChar
  have high := Utf8.toNat_of_mem_encodeChar isByte
  rw [UInt8.le_iff_toNat_le, show (0x20 : UInt8).toNat = 0x20 from rfl]
  omega

end SftpWire
