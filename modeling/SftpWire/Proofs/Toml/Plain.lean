import SftpWire.Proofs.Text.Digits
import SftpWire.Proofs.Toml.Distinct

/-!
Plain documents: one table, and on each line a key of it and a number. Such a text is a document,
and the document is that table with those keys and numbers and nothing else (`parse?_plain`).
-/

namespace SftpWire.Toml

open Scan

/-! ## Numbers -/

theorem isDigit_digitChar : ∀ n < 10, isDigit (Nat.digitChar n) = true ∧
    digitValue (Nat.digitChar n) = n := by
  decide

/-- The digits of a number are read as the number. -/
theorem ofDigits_toDigits (n : Nat) :
    (∀ c ∈ Nat.toDigits 10 n, isDigit c = true) ∧ ofDigits 10 (Nat.toDigits 10 n) = n := by
  constructor
  · intro c member
    obtain ⟨k, small, rfl⟩ := Digits.exists_of_mem_toDigits (by decide) member
    exact (isDigit_digitChar k small).1
  · exact Digits.foldl_toDigits (by decide) (fun k small => (isDigit_digitChar k small).2) n

/-- Only the digits of zero begin with zero. -/
theorem exists_toDigits_eq_cons {n : Nat} (some : 0 < n) :
    ∃ c digits, Nat.toDigits 10 n = c :: digits ∧ c ≠ '0' := by
  induction n using Nat.strongRecOn with
  | ind n ih =>
    rw [Nat.toDigits_eq_if (by decide)]
    split
    · next small =>
      have other : ∀ n < 10, 0 < n → Nat.digitChar n ≠ '0' := by decide
      exact ⟨_, [], rfl, other n small some⟩
    · obtain ⟨c, digits, front, other⟩ := ih (n / 10) (by omega) (by omega)
      exact ⟨c, digits ++ [Nat.digitChar (n % 10)], by rw [front, List.cons_append], other⟩

/-- The digits of numbers with no zero in front. -/
structure Decimal (digits : List Char) : Prop where
  ne_nil : digits ≠ []
  areDigits : ∀ c ∈ digits, isDigit c = true
  noZero : ∀ c more, digits ≠ '0' :: c :: more

theorem decimal_toDigits (n : Nat) : Decimal (Nat.toDigits 10 n) where
  ne_nil := Nat.toDigits_ne_nil
  areDigits := (ofDigits_toDigits n).1
  noZero := by
    intro c more same
    by_cases zero : n = 0
    · subst zero
      cases same
    · obtain ⟨d, digits, isNumber, other⟩ := exists_toDigits_eq_cons (Nat.pos_of_ne_zero zero)
      rw [isNumber] at same
      exact other (List.cons.inj same).1

/-! ## Digits on a line -/

section

variable {digits rest : List Char}

/-- Digits up to the end of their line. -/
def Digital (text : List Char) : Prop :=
  ∃ digits rest, text = digits ++ '\n' :: rest ∧ ∀ c ∈ digits, isDigit c = true

theorem ne_of_isDigit {c d : Char} (digit : isDigit c = true) (other : isDigit d = false) :
    c ≠ d := by
  rintro rfl
  rw [digit] at other
  cases other

/-- What accepts neither digits nor the end of the line takes nothing. -/
theorem Digital.one_eq_none {text : List Char} (digital : Digital text) {accepts : Char → Bool}
    (other : ∀ c, isDigit c = true → accepts c = false) (inner : accepts '\n' = false) :
    one accepts text = none := by
  obtain ⟨digits, rest, rfl, areDigits⟩ := digital
  cases digits with
  | nil => rw [List.nil_append, one_cons, inner, if_neg Bool.false_ne_true]
  | cons d digits =>
    rw [List.cons_append, one_cons, other d (areDigits d List.mem_cons_self),
      if_neg Bool.false_ne_true]

theorem Digital.char_eq_none {text : List Char} (digital : Digital text) {c : Char}
    (other : isDigit c = false) (inner : c ≠ '\n') : char c text = none := by
  have noChar : one (· == c) text = none :=
    digital.one_eq_none (fun d digit => beq_eq_false_iff_ne.2 (ne_of_isDigit digit other))
      (beq_eq_false_iff_ne.2 inner.symm)
  rw [char, discard_apply, noChar]
  rfl

/-- Nor is a word there that begins with something else. -/
theorem Digital.exactly_eq_none {text : List Char} (digital : Digital text) {word : String}
    {c : Char} {more : List Char} (isWord : word.toList = c :: more) (other : isDigit c = false)
    (inner : c ≠ '\n') : exactly word text = none := by
  rw [exactly, isWord]
  show (char c >>= fun _ => more.forM char) text = none
  rw [bind_apply, digital.char_eq_none other inner]
  rfl

/-- A character of the line but its end leaves digits of the line behind. -/
theorem Digital.of_one {text : List Char} (digital : Digital text) {accepts : Char → Bool}
    (inner : accepts '\n' = false) {c : Char} {behind : List Char}
    (read : one accepts text = some (c, behind)) : Digital behind := by
  obtain ⟨digits, rest, rfl, areDigits⟩ := digital
  cases digits with
  | nil =>
    rw [List.nil_append, one_cons, inner] at read
    cases read
  | cons d digits =>
    rw [List.cons_append, one_cons] at read
    split at read
    · cases read
      exact ⟨digits, rest, rfl, fun c member => areDigits c (List.mem_cons_of_mem _ member)⟩
    · cases read

/-- What is behind some digits of a line are digits of that line. -/
theorem Digital.of_number {text : List Char} (digital : Digital text) {width low high n : Nat}
    {behind : List Char} (read : number width low high text = some (n, behind)) :
    Digital behind := by
  have row (width : Nat) (text : List Char) (digital : Digital text) (all behind : List Char)
      (read : ((List.replicate width ()).mapM fun _ => one isDigit) text = some (all, behind)) :
      Digital behind := by
    induction width generalizing text all with
    | zero =>
      cases read
      exact digital
    | succ width ih =>
      rw [List.replicate_succ, List.mapM_cons, bind_apply] at read
      obtain ⟨first, isFirst, read⟩ := Option.bind_eq_some_iff.1 read
      rw [bind_apply] at read
      obtain ⟨others, areOthers, read⟩ := Option.bind_eq_some_iff.1 read
      cases read
      exact ih first.2 (digital.of_one rfl isFirst) others.1 areOthers
  rw [number, bind_apply] at read
  obtain ⟨all, areAll, read⟩ := Option.bind_eq_some_iff.1 read
  rw [bind_apply] at read
  obtain ⟨checked, isChecked, read⟩ := Option.bind_eq_some_iff.1 read
  have behindAll := row width text digital all.1 all.2 areAll
  rw [check] at isChecked
  split at isChecked
  · cases isChecked
    cases read
    exact behindAll
  · cases isChecked

/-- A scan that goes on with a mark after digits is not made on a line of digits. -/
theorem bind_char_eq_none {α β : Type} {first : Scan β} {text : List Char}
    (leaves : ∀ value behind, first text = some (value, behind) → Digital behind) {c : Char}
    (other : isDigit c = false) (inner : c ≠ '\n') (next : β → Unit → Scan α) :
    (first >>= fun value => char c >>= next value) text = none := by
  rw [bind_apply]
  cases read : first text with
  | none => rfl
  | some result =>
    rw [Option.bind_some, bind_apply, (leaves _ _ read).char_eq_none other inner]
    rfl

theorem Digital.moment_eq_none {text : List Char} (digital : Digital text) :
    moment text = none := by
  have noDate : date text = none :=
    bind_char_eq_none (fun _ _ => digital.of_number) (by decide) (by decide) _
  have noTime : time text = none := by
    refine bind_char_eq_none (fun value behind read => ?_) (by decide) (by decide) _
    rw [discard_apply] at read
    obtain ⟨result, isNumber, isBehind⟩ := Option.map_eq_some_iff.1 read
    cases isBehind
    exact digital.of_number isNumber
  rw [moment, orElse_apply, bind_apply, noDate, noTime]
  rfl

/-! ## A number as a value -/

theorem sign_eq {text : List Char} (digital : Digital text) :
    sign text = some (false, text) := by
  rw [sign, orElse_apply, orElse_apply, seqRight_eq_bind, seqRight_eq_bind, bind_apply, bind_apply,
    digital.char_eq_none (by decide) (by decide), digital.char_eq_none (by decide) (by decide)]
  rfl

/-- One more digit, if there is one. -/
theorem next_digit (c : Char) (isLine : isDigit c = true ∨ c = '\n') :
    (optional (char '_') *> one isDigit : Scan Char) (c :: rest) = one isDigit (c :: rest) := by
  have other : c ≠ '_' := by
    rcases isLine with digit | rfl
    · exact ne_of_isDigit digit (by decide)
    · decide
  rw [seqRight_eq_bind, bind_apply, optional_apply, char_cons, if_neg other]
  rfl

theorem manyWithin_digits {bound : List Char} (enough : digits.length ≤ bound.length)
    (areDigits : ∀ c ∈ digits, isDigit c = true) :
    manyWithin (optional (char '_') *> one isDigit) bound (digits ++ '\n' :: rest) =
      (digits, '\n' :: rest) := by
  induction digits generalizing bound with
  | nil =>
    cases bound with
    | nil => rfl
    | cons b bound =>
      rw [manyWithin, List.nil_append, next_digit '\n' (.inr rfl)]
      rfl
  | cons c digits ih =>
    obtain ⟨first, others⟩ := List.forall_mem_cons.1 areDigits
    cases bound with
    | nil => cases enough
    | cons b bound =>
      rw [manyWithin, List.cons_append, next_digit c (.inl first), one_cons, if_pos first]
      simp only [ih (Nat.le_of_succ_le_succ enough) others]

theorem digits_eq (some : digits ≠ []) (areDigits : ∀ c ∈ digits, isDigit c = true) :
    Toml.digits isDigit (digits ++ '\n' :: rest) = Option.some (digits, '\n' :: rest) := by
  cases digits with
  | nil => exact absurd rfl some
  | cons c digits =>
    obtain ⟨first, others⟩ := List.forall_mem_cons.1 areDigits
    have enough : digits.length ≤ (digits ++ '\n' :: rest).length := by simp
    rw [Toml.digits, bind_apply, List.cons_append, one_cons, if_pos first, Option.bind_some,
      bind_apply, many, manyWithin_digits enough others]
    rfl

theorem decimal_eq (isDecimal : Decimal digits) :
    decimal (digits ++ '\n' :: rest) = some (digits, '\n' :: rest) := by
  rw [decimal, bind_apply, digits_eq isDecimal.ne_nil isDecimal.areDigits, Option.bind_some]
  dsimp only
  split
  · exact absurd rfl (isDecimal.noZero _ _)
  · rfl

theorem Decimal.digital (isDecimal : Decimal digits) : Digital (digits ++ '\n' :: rest) :=
  ⟨digits, rest, rfl, isDecimal.areDigits⟩

theorem decimalFloat_eq_none (isDecimal : Decimal digits) :
    decimalFloat (digits ++ '\n' :: rest) = none := by
  have noFraction : (optional (char '.' *> Toml.digits isDigit)) ('\n' :: rest) =
      some (none, '\n' :: rest) := by
    rw [optional_apply, seqRight_eq_bind, bind_apply, char_cons, if_neg (by decide)]
    rfl
  have noPower : optional exponent ('\n' :: rest) = some (none, '\n' :: rest) := by
    rw [optional_apply]
    rfl
  rw [decimalFloat, bind_apply, sign_eq isDecimal.digital, Option.bind_some, bind_apply,
    decimal_eq isDecimal, Option.bind_some, bind_apply, noFraction, Option.bind_some, bind_apply,
    noPower]
  rfl

/-- The mark of another base has something other than a digit in it. -/
theorem based_eq_none (isDecimal : Decimal digits) {mark : String} {m : Char}
    (isMark : mark.toList = ['0', m]) (other : isDigit m = false) (inner : m ≠ '\n') (base : Nat)
    (isMine : Char → Bool) : based mark base isMine (digits ++ '\n' :: rest) = none := by
  have noMark : exactly mark (digits ++ '\n' :: rest) = none := by
    rw [exactly, isMark]
    refine bind_char_eq_none (fun value behind read => ?_) other inner _
    rw [char, discard_apply] at read
    obtain ⟨result, isZero, isBehind⟩ := Option.map_eq_some_iff.1 read
    cases isBehind
    exact isDecimal.digital.of_one rfl isZero
  rw [based, bind_apply, noMark]
  rfl

theorem integer_eq (isDecimal : Decimal digits)
    (small : ofDigits 10 digits ≤ 9223372036854775807) :
    integer (digits ++ '\n' :: rest) =
      some (((ofDigits 10 digits : Nat) : Int), '\n' :: rest) := by
  have fits : (-9223372036854775808 ≤ ((ofDigits 10 digits : Nat) : Int) &&
      ((ofDigits 10 digits : Nat) : Int) ≤ 9223372036854775807) = true := by
    rw [Bool.and_eq_true, decide_eq_true_eq, decide_eq_true_eq]
    omega
  rw [integer, orElse_apply, orElse_apply, orElse_apply,
    based_eq_none isDecimal rfl (by decide) (by decide),
    based_eq_none isDecimal rfl (by decide) (by decide),
    based_eq_none isDecimal rfl (by decide) (by decide), bind_apply, sign_eq isDecimal.digital,
    Option.bind_some, bind_apply, decimal_eq isDecimal, Option.bind_some]
  simp only [bounded, Bool.false_eq_true, if_false, bind_apply, check, fits, if_true]
  rfl

theorem string_eq_none {text : List Char} (digital : Digital text) : string text = none := by
  have noQuote : one isQuote text = none :=
    digital.one_eq_none (fun c digit => beq_eq_false_iff_ne.2 (ne_of_isDigit digit rfl)) rfl
  have noApostrophe : one isApostrophe text = none :=
    digital.one_eq_none (fun c digit => beq_eq_false_iff_ne.2 (ne_of_isDigit digit rfl)) rfl
  have noQuotes : openingMarks isQuote text = none := by
    rw [openingMarks, bind_apply, discard_apply, noQuote]
    rfl
  have noApostrophes : openingMarks isApostrophe text = none := by
    rw [openingMarks, bind_apply, discard_apply, noApostrophe]
    rfl
  rw [string, orElse_apply, orElse_apply, orElse_apply, longBasicString, basicString,
    longLiteralString, literalString, bind_apply, bind_apply, bind_apply, bind_apply, noQuotes,
    noApostrophes, discard_apply, discard_apply, noQuote, noApostrophe]
  rfl

theorem boolean_eq_none {text : List Char} (digital : Digital text) : boolean text = none := by
  rw [boolean, orElse_apply, seqRight_eq_bind, seqRight_eq_bind, bind_apply, bind_apply,
    digital.exactly_eq_none rfl (by decide) (by decide),
    digital.exactly_eq_none rfl (by decide) (by decide)]
  rfl

theorem specialFloat_eq_none {text : List Char} (digital : Digital text) :
    specialFloat text = none := by
  rw [specialFloat, seqRight_eq_bind, bind_apply, sign_eq digital, Option.bind_some, orElse_apply,
    digital.exactly_eq_none rfl (by decide) (by decide),
    digital.exactly_eq_none rfl (by decide) (by decide)]
  rfl

theorem scalar_eq (isDecimal : Decimal digits)
    (small : ofDigits 10 digits ≤ 9223372036854775807) :
    scalar (digits ++ '\n' :: rest) =
      some (.integer (ofDigits 10 digits : Nat), '\n' :: rest) := by
  have digital : Digital (digits ++ '\n' :: rest) := isDecimal.digital
  have noFloat : (decimalFloat <|> specialFloat) (digits ++ '\n' :: rest) = none := by
    rw [orElse_apply, decimalFloat_eq_none isDecimal, specialFloat_eq_none digital]
    rfl
  simp only [scalar, orElse_apply, map_apply, captured, string_eq_none digital,
    boolean_eq_none digital, digital.moment_eq_none, noFloat, integer_eq isDecimal small]
  rfl

theorem value_succ_eq_scalar {text : List Char} (noArray : text.head? ≠ some '[')
    (noTable : text.head? ≠ some '\x7b') (depth : Nat) : value (depth + 1) text = scalar text := by
  rw [value, bind_apply, peek?, Option.bind_some]
  dsimp only
  generalize text.head? = next at *
  split
  · exact absurd rfl noArray
  · exact absurd rfl noTable
  · rfl

/-- A number is the same wherever values may be nested. -/
theorem value_eq (depth : Nat) (isDecimal : Decimal digits)
    (small : ofDigits 10 digits ≤ 9223372036854775807) :
    value depth (digits ++ '\n' :: rest) =
      some (.integer (ofDigits 10 digits : Nat), '\n' :: rest) := by
  cases depth with
  | zero => exact scalar_eq isDecimal small
  | succ depth =>
    obtain ⟨c, more, isDigits⟩ := List.exists_cons_of_ne_nil isDecimal.ne_nil
    have digit : isDigit c = true := isDecimal.areDigits c (isDigits ▸ List.mem_cons_self)
    have next : (digits ++ '\n' :: rest).head? = some c := by rw [isDigits]; rfl
    rw [value_succ_eq_scalar, scalar_eq isDecimal small]
    · rw [next]
      exact mt Option.some.inj (ne_of_isDigit digit rfl)
    · rw [next]
      exact mt Option.some.inj (ne_of_isDigit digit rfl)

end

/-! ## Keys -/

/-- A key that needs no marks. -/
structure IsBare (name : String) : Prop where
  ne_nil : name.toList ≠ []
  areBare : ∀ c ∈ name.toList, isBareKey c = true

/-- What can stand behind a key and its blanks. -/
structure EndsKey (c : Char) : Prop where
  noKey : isBareKey c = false
  noBlank : isBlank c = false
  noDot : c ≠ '.'

theorem isBlank_of_isBareKey {c : Char} (bare : isBareKey c = true) : isBlank c = false := by
  refine Bool.eq_false_iff.2 fun blank => ?_
  rw [isBlank, Bool.or_eq_true, beq_iff_eq, beq_iff_eq] at blank
  rcases blank with rfl | rfl
  all_goals cases bare

section

variable {name : String} {blank rest : List Char} {c : Char}

/-- The front of blanks that may be none, and of what is behind them. -/
theorem forall_head?_append {P : Char → Prop} (front : ∀ d ∈ blank, P d) (behind : P c) :
    ∀ d ∈ (blank ++ c :: rest).head?, P d := by
  cases blank with
  | nil =>
    rintro d ⟨⟩
    exact behind
  | cons e blank =>
    rintro d ⟨⟩
    exact front _ List.mem_cons_self

theorem part_eq (isBare : IsBare name) (areBlank : ∀ d ∈ blank, isBlank d = true)
    (ends : EndsKey c) :
    (blanks *> simpleKey <* blanks) (name.toList ++ (blank ++ c :: rest)) =
      some (name, c :: rest) := by
  obtain ⟨d, more, isName⟩ := List.exists_cons_of_ne_nil isBare.ne_nil
  have first := isBare.areBare d (isName ▸ List.mem_cons_self)
  have noBlanks : run isBlank (name.toList ++ (blank ++ c :: rest)) =
      some ([], name.toList ++ (blank ++ c :: rest)) := by
    refine run_eq_nil ?_
    rw [isName]
    rintro e ⟨⟩
    exact isBlank_of_isBareKey first
  have isKey : run₁ isBareKey (name.toList ++ (blank ++ c :: rest)) =
      some (name.toList, blank ++ c :: rest) := by
    refine run₁_append isBare.ne_nil isBare.areBare (forall_head?_append ?_ ends.noKey)
    intro e isBlank
    refine Bool.eq_false_iff.2 fun bare => ?_
    have noBlank := isBlank_of_isBareKey bare
    rw [areBlank e isBlank] at noBlank
    cases noBlank
  have areBlanks : run isBlank (blank ++ c :: rest) = some (blank, c :: rest) := by
    refine run_append areBlank ?_
    rintro e ⟨⟩
    exact ends.noBlank
  simp only [seqLeft_eq_bind, seqRight_eq_bind, bind_apply, blanks, discard_apply, noBlanks,
    Option.map_some, Option.bind_some, simpleKey, orElse_apply, map_apply, isKey,
    String.ofList_toList, Option.orElse_eq_orElse, Option.orElse_some, areBlanks, pure_apply]

theorem key_eq (isBare : IsBare name) (areBlank : ∀ d ∈ blank, isBlank d = true)
    (ends : EndsKey c) :
    key (name.toList ++ (blank ++ c :: rest)) = some (([], name), c :: rest) := by
  have noMore : (do discard (char '.'); blanks *> simpleKey <* blanks : Scan String) (c :: rest) =
      none := by
    rw [bind_apply, discard_apply, char_cons, if_neg ends.noDot]
    rfl
  simp only [key, separated, bind_apply, part_eq isBare areBlank ends, Option.bind_some,
    many_of_none noMore, pure_apply]
  rfl

/-! ## Lines -/

/-- A line that a statement fills says that and nothing else. -/
theorem line_of_statement {text : List Char} {said : Statement}
    (noBlank : ∀ d ∈ text.head?, isBlank d = false)
    (isSaid : statement text = some (said, '\n' :: rest)) : line text = some (some said, rest) := by
  have noBlanks : run isBlank text = some ([], text) := run_eq_nil noBlank
  have noMore : run isBlank ('\n' :: rest) = some ([], '\n' :: rest) := by
    refine run_eq_nil ?_
    rintro d ⟨⟩
    rfl
  have noComment : comment ('\n' :: rest) = none := by
    rw [comment, seqRight_eq_bind, bind_apply, char_cons, if_neg (by decide)]
    rfl
  have isEnd : newline ('\n' :: rest) = some ((), rest) := rfl
  simp only [line, bind_apply, blanks, discard_apply, noBlanks, Option.map_some, Option.bind_some,
    optional_apply, isSaid, noMore, noComment, orElse_apply, isEnd, Option.orElse_eq_orElse,
    Option.orElse_some, pure_apply]

theorem line_header (isBare : IsBare name) :
    line ('[' :: (name.toList ++ ']' :: '\n' :: rest)) = some (some (.table [] name), rest) := by
  obtain ⟨c, more, isName⟩ := List.exists_cons_of_ne_nil isBare.ne_nil
  have single : c ≠ '[' := by
    rintro rfl
    have bare := isBare.areBare '[' (isName ▸ List.mem_cons_self)
    cases bare
  have noNext : exactly "[[" ('[' :: (name.toList ++ ']' :: '\n' :: rest)) = none := by
    rw [isName]
    show (char '[' >>= fun _ => char '[' >>= fun _ => pure ()) _ = none
    rw [bind_apply, char_cons, if_pos rfl, Option.bind_some, bind_apply, List.cons_append,
      char_cons, if_neg single]
    rfl
  have isKey : key (name.toList ++ ']' :: '\n' :: rest) =
      some (([], name), ']' :: '\n' :: rest) :=
    @key_eq name [] ('\n' :: rest) ']' isBare nofun ⟨rfl, rfl, by decide⟩
  have closes : char ']' (']' :: '\n' :: rest) = some ((), '\n' :: rest) := rfl
  refine line_of_statement (by rintro d ⟨⟩; rfl) ?_
  rw [statement, orElse_apply, bind_apply, noNext, Option.bind_none]
  simp only [orElse_apply, bind_apply, char_cons, if_true, Option.bind_some, isKey, closes,
    pure_apply]
  rfl

theorem line_number (isBare : IsBare name) {n : Nat} (small : n ≤ 9223372036854775807) :
    line (name.toList ++ ([' '] ++ '=' :: ' ' :: (Nat.toDigits 10 n ++ '\n' :: rest))) =
      some (some (.assign [] name (.integer n)), rest) := by
  obtain ⟨c, more, isName⟩ := List.exists_cons_of_ne_nil isBare.ne_nil
  have bare := isBare.areBare c (isName ▸ List.mem_cons_self)
  have noTable : char '[' (name.toList ++ ([' '] ++ '=' :: ' ' ::
      (Nat.toDigits 10 n ++ '\n' :: rest))) = none := by
    rw [isName, List.cons_append, char_cons, if_neg]
    rintro rfl
    cases bare
  have noNext : exactly "[[" (name.toList ++ ([' '] ++ '=' :: ' ' ::
      (Nat.toDigits 10 n ++ '\n' :: rest))) = none := by
    show (char '[' >>= fun _ => char '[' >>= fun _ => pure ()) _ = none
    rw [bind_apply, noTable]
    rfl
  have isKey : key (name.toList ++ ([' '] ++ '=' :: ' ' :: (Nat.toDigits 10 n ++ '\n' :: rest))) =
      some (([], name), '=' :: ' ' :: (Nat.toDigits 10 n ++ '\n' :: rest)) :=
    key_eq isBare (by simp [isBlank]) ⟨rfl, rfl, by decide⟩
  have isDecimal := decimal_toDigits n
  have oneBlank : run isBlank (' ' :: (Nat.toDigits 10 n ++ '\n' :: rest)) =
      some ([' '], Nat.toDigits 10 n ++ '\n' :: rest) := by
    refine @run_append Toml.isBlank [' '] _ (by simp [isBlank]) ?_
    obtain ⟨d, more, isDigits⟩ := List.exists_cons_of_ne_nil isDecimal.ne_nil
    rw [isDigits]
    rintro e ⟨⟩
    have digit := isDecimal.areDigits d (isDigits ▸ List.mem_cons_self)
    refine Bool.eq_false_iff.2 fun blank => ?_
    rw [isBlank, Bool.or_eq_true, beq_iff_eq, beq_iff_eq] at blank
    rcases blank with rfl | rfl
    all_goals cases digit
  have isValue : value nestingLimit (Nat.toDigits 10 n ++ '\n' :: rest) =
      some (.integer n, '\n' :: rest) := by
    have number := (ofDigits_toDigits n).2
    rw [value_eq nestingLimit isDecimal (by omega), number]
  refine line_of_statement ?_ ?_
  · rw [isName]
    rintro d ⟨⟩
    exact isBlank_of_isBareKey bare
  · rw [statement, orElse_apply, bind_apply, noNext, orElse_apply, bind_apply, noTable]
    simp only [Option.bind_none, bind_apply, assignment, isKey, Option.bind_some, char_cons,
      if_true, blanks, discard_apply, oneBlank, Option.map_some, isValue, pure_apply]
    rfl

end

/-! ## Documents -/

/-- A document with one table, whose keys have numbers. -/
def plain (name : String) (entries : List (String × Nat)) : String :=
  "[" ++ name ++ "]\n" ++
    String.join (entries.map fun entry => entry.1 ++ " = " ++ toString entry.2 ++ "\n")

/-- The table of a plain document. -/
def numbers (entries : List (String × Nat)) : Table :=
  entries.map fun entry => (entry.1, .integer entry.2)

/-- The lines behind the first of a plain document. -/
def numberLines (entries : List (String × Nat)) : List Char :=
  entries.flatMap fun entry =>
    entry.1.toList ++ ([' '] ++ '=' :: ' ' :: (Nat.toDigits 10 entry.2 ++ ['\n']))

theorem toList_plain (name : String) (entries : List (String × Nat)) :
    (plain name entries).toList = '[' :: (name.toList ++ ']' :: '\n' :: numberLines entries) := by
  simp [plain, numberLines, String.toList_join, List.flatMap_map]

theorem length_le_numberLines (entries : List (String × Nat)) :
    entries.length ≤ (numberLines entries).length := by
  induction entries with
  | nil => exact Nat.le_refl 0
  | cons entry entries ih =>
    rw [numberLines, List.flatMap_cons, List.length_append, List.length_cons]
    have line : 1 ≤ (entry.1.toList ++
        ([' '] ++ '=' :: ' ' :: (Nat.toDigits 10 entry.2 ++ ['\n']))).length := by
      simp only [List.length_append, List.length_cons]
      omega
    have others : entries.length ≤ (numberLines entries).length := ih
    rw [numberLines] at others
    omega

variable {name : String} {entries : List (String × Nat)}

theorem linesWithin_numberLines {bound : List Char} (enough : entries.length ≤ bound.length)
    (areBare : ∀ entry ∈ entries, IsBare entry.1)
    (small : ∀ entry ∈ entries, entry.2 ≤ 9223372036854775807) :
    linesWithin bound (numberLines entries) =
      some (entries.map fun entry => .assign [] entry.1 (.integer entry.2)) := by
  induction entries generalizing bound with
  | nil => cases bound <;> rfl
  | cons entry entries ih =>
    obtain ⟨isBare, othersBare⟩ := List.forall_mem_cons.1 areBare
    obtain ⟨isSmall, othersSmall⟩ := List.forall_mem_cons.1 small
    cases bound with
    | nil => cases enough
    | cons b bound =>
      have split : numberLines (entry :: entries) = entry.1.toList ++ ([' '] ++ '=' :: ' ' ::
          (Nat.toDigits 10 entry.2 ++ '\n' :: numberLines entries)) := by
        simp [numberLines]
      have others := ih (Nat.le_of_succ_le_succ enough) othersBare othersSmall
      rw [split, linesWithin]
      · simp only [line_number isBare isSmall, others]
        rfl
      · simp

/-- A key that is not there yet is added to the table that is open. -/
theorem add_number {before : Table} {key : String} (absent : before.find? key = none) (n : Nat) :
    Draft.add { path := [name], root := [(name, .table .header before)] }
        (.assign [] key (.integer n)) =
      some { path := [name], root := [(name, .table .header (before.add key (.integer n)))] } := by
  have found : Table.find? name [(name, .table .header before)] = some (.table .header before) :=
    List.lookup_cons_self
  have replaced : Table.replace name (.table .header (before.add key (.integer n)))
      [(name, .table .header before)] =
        [(name, .table .header (before.add key (.integer n)))] := by
    simp [Table.replace]
  simp only [Draft.add, Table.update, found, Table.insert, absent, Option.map_some, replaced]

theorem foldlM_numbers {before : Table}
    (distinct : ((before ++ numbers entries).map Prod.fst).Nodup) :
    (entries.map fun entry => Statement.assign [] entry.1 (.integer entry.2)).foldlM Draft.add
        { path := [name], root := [(name, .table .header before)] } =
      some { path := [name], root := [(name, .table .header (before ++ numbers entries))] } := by
  induction entries generalizing before with
  | nil =>
    rw [numbers, List.map_nil, List.map_nil, List.append_nil]
    rfl
  | cons entry entries ih =>
    have split : before ++ numbers (entry :: entries) =
        before.add entry.1 (.integer entry.2) ++ numbers entries := by
      simp [numbers, Table.add]
    have absent : before.find? entry.1 = none := by
      rw [List.map_append, List.nodup_append] at distinct
      refine Table.find?_eq_none_iff.2 fun member => ?_
      exact distinct.2.2 entry.1 member entry.1 List.mem_cons_self rfl
    rw [split] at distinct ⊢
    rw [List.map_cons, List.foldlM_cons, add_number absent]
    exact ih distinct

/-- A plain document is the table that it looks like. -/
theorem parse?_plain (isBare : IsBare name) (areBare : ∀ entry ∈ entries, IsBare entry.1)
    (distinct : (entries.map Prod.fst).Nodup)
    (small : ∀ entry ∈ entries, entry.2 ≤ 9223372036854775807) :
    parse? (plain name entries) = some [(name, .table .header (numbers entries))] := by
  have said : statements? (plain name entries).toList =
      some (.table [] name ::
        entries.map fun entry => .assign [] entry.1 (.integer entry.2)) := by
    have enough : entries.length ≤
        (name.toList ++ ']' :: '\n' :: numberLines entries).length := by
      have least := length_le_numberLines entries
      simp only [List.length_append, List.length_cons]
      omega
    have others := linesWithin_numberLines enough areBare small
    rw [toList_plain]
    show linesWithin ('[' :: (name.toList ++ ']' :: '\n' :: numberLines entries))
      ('[' :: (name.toList ++ ']' :: '\n' :: numberLines entries)) = _
    rw [linesWithin]
    · simp only [line_header isBare, others]
      rfl
    · simp
  have distinct' : (([] ++ numbers entries).map Prod.fst).Nodup := by
    rw [List.nil_append, numbers, List.map_map]
    exact distinct
  have opened : Draft.add { path := [], root := [] } (.table [] name) =
      some { path := [name], root := [(name, .table .header [])] } := rfl
  rw [parse?, said]
  show ((_ :: _ : List Statement).foldlM Draft.add _ >>= fun draft => pure draft.root) = _
  rw [List.foldlM_cons, opened]
  show ((List.map _ entries).foldlM Draft.add _ >>= fun draft => pure draft.root) = _
  rw [foldlM_numbers distinct']
  rfl

end SftpWire.Toml
