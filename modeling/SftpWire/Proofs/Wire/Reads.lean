import SftpWire.Proofs.Wire.Layout

/-!
Readers of layouts. `Reader.Reads` joins the two sides in one equivalence: a reader reads a layout
when it gives exactly the values whose written form stands at the front of the bytes. Readers of
several fields, of counted rows and of rows that go on to the end of the bytes keep it; those are
`Reads.run_pair_eq_done`, `Reads.run_triple_eq_done`, `Reads.run_counted_eq_done` and
`Reads.toEnd_reads`.
-/

namespace SftpWire

variable {α β γ δ : Type}

/-- A reader gives exactly the values that stand at the front of the bytes. -/
def Reader.Reads (reader : Reader α) (layout : Layout α) : Prop :=
  ∀ bytes value rest, reader.run bytes = .done value rest ↔ layout.Splits bytes value rest

namespace Reader

open Bytes

theorem run_byte_eq_done {bytes rest : Bytes} {first : UInt8} :
    byte.run bytes = .done first rest ↔ bytes = first :: rest := by
  cases bytes <;> simp [byte]

theorem run_remaining_eq_done {bytes rest front : Bytes} :
    remaining.run bytes = .done front rest ↔ bytes = front ∧ rest = [] := by
  simp [remaining, eq_comm]

/-- A word runs short where fewer than four bytes are, and takes none of them. -/
theorem run_word32_eq_short {bytes rest : Bytes} :
    word32.run bytes = .short rest ↔ bytes.length < 4 ∧ rest = bytes := by
  rw [word32, run_map, Outcome.bind_eq_short, run_raw_eq_short]
  simp

theorem exists_word32_append {bytes : Bytes} (enough : 4 ≤ bytes.length) :
    ∃ word rest, bytes = ofWord32 word ++ rest := by
  cases run : word32.run bytes with
  | short rest =>
    have few := (run_word32_eq_short.1 run).1
    omega
  | done word rest => exact ⟨word, rest, run_word32_eq_done.1 run⟩

/-- A reader that undoes a writer, whatever the value and whatever follows it, reads the free
layout. -/
theorem reads_free {reader : Reader α} {write : α → Bytes}
    (undoes : ∀ bytes value rest,
      reader.run bytes = .done value rest ↔ bytes = write value ++ rest) :
    reader.Reads (.free write) := by
  intro bytes value rest
  rw [undoes, (Layout.free_closed write).splits_iff]
  exact (and_iff_left trivial).symm

theorem word32_reads : word32.Reads (.free ofWord32) :=
  reads_free fun _ _ _ => run_word32_eq_done

theorem word64_reads : word64.Reads (.free ofWord64) :=
  reads_free fun _ _ _ => run_word64_eq_done

theorem remaining_reads : remaining.Reads .remaining := by
  intro bytes front rest
  rw [run_remaining_eq_done]
  constructor
  · intro read
    rcases read with ⟨rfl, rfl⟩
    exact ⟨(List.append_nil _).symm, trivial, fun _ => rfl⟩
  · intro written
    rcases written with ⟨split, -, last⟩
    obtain rfl := last trivial
    exact ⟨split.trans (List.append_nil _), rfl⟩

theorem string_reads : string.Reads .string := by
  intro bytes text rest
  rw [run_string_eq_done, Layout.string_closed.splits_iff]
  rfl

theorem times_succ (reader : Reader α) (n : Nat) (bytes : Bytes) :
    reader.times (n + 1) bytes = (reader.run bytes).bind fun value rest =>
      (reader.times n rest).bind fun values last => .done (value :: values) last := by
  rw [times]
  cases reader.run bytes with
  | short rest => rfl
  | done value rest =>
    simp only [Outcome.bind_done]
    cases reader.times n rest <;> rfl

theorem untilEmpty_nil (reader : Reader α) (bound : Nat) :
    reader.untilEmpty bound [] = .done [] [] := by
  cases bound <;> rfl

theorem untilEmpty_cons (reader : Reader α) (bound : Nat) (first : UInt8) (tail : Bytes) :
    reader.untilEmpty (bound + 1) (first :: tail) =
      (reader.run (first :: tail)).bind fun value rest =>
        (reader.untilEmpty bound rest).bind fun values last => .done (value :: values) last := by
  rw [untilEmpty]
  · cases reader.run (first :: tail) with
    | short rest => rfl
    | done value rest =>
      simp only [Outcome.bind_done]
      cases reader.untilEmpty bound rest <;> rfl
  · nofun

namespace Reads

variable {reader : Reader α} {layout : Layout α}

/-! ## Fields -/

section

variable {first : Layout α} {second : Layout β} {third : Layout γ} {outer : Layout δ}
  {reader' : Reader β} {reader'' : Reader γ} {bytes rest : Bytes} {value : δ}

theorem run_map_eq_done {make : α → δ} (reads : reader.Reads first)
    (embeds : first.Embeds outer make) :
    (make <$> reader).run bytes = .done value rest ↔
      ∃ part, value = make part ∧ outer.Splits bytes value rest := by
  rw [run_map, Outcome.bind_eq_done]
  constructor
  · intro read
    rcases read with ⟨part, last, read, made⟩
    cases made
    exact ⟨part, rfl, embeds.splits_iff.2 ((reads ..).1 read)⟩
  · intro written
    rcases written with ⟨part, rfl, splits⟩
    exact ⟨part, rest, (reads ..).2 (embeds.splits_iff.1 splits), rfl⟩

theorem pair (reads : reader.Reads first) (closed : first.Closed) (reads' : reader'.Reads second) :
    (do let a ← reader
        let b ← reader'
        return (a, b)).Reads (first.pair second) := by
  rintro bytes ⟨a, b⟩ rest
  simp only [run_bind, run_pure, Outcome.bind_eq_done, reads _ _ _, reads' _ _ _,
    closed.splits_iff, Layout.pair_splits_iff, Outcome.done.injEq, Prod.mk.injEq]
  constructor
  · intro read
    rcases read with ⟨_, middle, ⟨split, fits⟩, _, _, splits, ⟨rfl, rfl⟩, rfl⟩
    exact ⟨middle, split, fits, splits⟩
  · intro written
    rcases written with ⟨middle, split, fits, splits⟩
    exact ⟨a, middle, ⟨split, fits⟩, b, rest, splits, ⟨rfl, rfl⟩, rfl⟩

/-- Values made of two parts. -/
theorem run_pair_eq_done {make : α → β → δ} (reads : reader.Reads first) (closed : first.Closed)
    (reads' : reader'.Reads second)
    (embeds : (first.pair second).Embeds outer fun parts => make parts.1 parts.2) :
    (do let a ← reader
        let b ← reader'
        return make a b).run bytes = .done value rest ↔
      ∃ a b, value = make a b ∧ outer.Splits bytes value rest := by
  have same : (do let a ← reader
                  let b ← reader'
                  return make a b).run bytes =
      ((fun parts : α × β => make parts.1 parts.2) <$> (do
          let a ← reader
          let b ← reader'
          return (a, b))).run bytes := by
    simp only [run_map, run_bind, run_pure]
    cases reader.run bytes with
    | short last => rfl
    | done a middle =>
      simp only [Outcome.bind_done]
      cases reader'.run middle <;> rfl
  rw [same, (reads.pair closed reads').run_map_eq_done embeds]
  exact Prod.exists

/-- Values made of three parts. -/
theorem run_triple_eq_done {make : α → β → γ → δ} (reads : reader.Reads first)
    (closed : first.Closed) (reads' : reader'.Reads second) (closed' : second.Closed)
    (reads'' : reader''.Reads third)
    (embeds : (first.pair (second.pair third)).Embeds outer fun parts =>
      make parts.1 parts.2.1 parts.2.2) :
    (do let a ← reader
        let b ← reader'
        let c ← reader''
        return make a b c).run bytes = .done value rest ↔
      ∃ a b c, value = make a b c ∧ outer.Splits bytes value rest := by
  have same : (do let a ← reader
                  let b ← reader'
                  let c ← reader''
                  return make a b c).run bytes =
      (do let a ← reader
          let parts ← (do
            let b ← reader'
            let c ← reader''
            return (b, c))
          return make a parts.1 parts.2).run bytes := by
    simp only [run_bind, run_pure]
    cases reader.run bytes with
    | short last => rfl
    | done a middle =>
      simp only [Outcome.bind_done]
      cases reader'.run middle with
      | short last => rfl
      | done b middle' =>
        simp only [Outcome.bind_done]
        cases reader''.run middle' <;> rfl
  rw [same, run_pair_eq_done reads closed (reads'.pair closed' reads'') embeds]
  constructor
  · intro read
    rcases read with ⟨a, ⟨b, c⟩, made, splits⟩
    exact ⟨a, b, c, made, splits⟩
  · intro written
    rcases written with ⟨a, b, c, made, splits⟩
    exact ⟨a, (b, c), made, splits⟩

end

/-! ## Rows -/

theorem untilEmpty_nil_iff {bound : Nat} (nonempty : ∀ value, layout.write value ≠ [])
    {rest : Bytes} {values : List α} :
    reader.untilEmpty bound [] = .done values rest ↔
      [] = values.flatMap layout.write ∧ rest = [] ∧ ∀ value ∈ values, layout.Fits value := by
  rw [untilEmpty_nil, Outcome.done.injEq]
  constructor
  · intro read
    rcases read with ⟨rfl, rfl⟩
    exact ⟨rfl, rfl, nofun⟩
  · intro written
    rcases written with ⟨none, rfl, -⟩
    cases values with
    | nil => exact ⟨rfl, rfl⟩
    | cons value values =>
      rw [List.flatMap_cons] at none
      exact absurd (List.append_eq_nil_iff.1 none.symm).1 (nonempty value)

/-- A row of `n` values is read exactly when `n` written values stand there. -/
theorem times_eq_done (reads : reader.Reads layout) (closed : layout.Closed)
    {n : Nat} {bytes rest : Bytes} {values : List α} :
    reader.times n bytes = .done values rest ↔
      values.length = n ∧ bytes = values.flatMap layout.write ++ rest ∧
        ∀ value ∈ values, layout.Fits value := by
  induction n generalizing bytes values rest with
  | zero =>
    rw [times, Outcome.done.injEq, List.length_eq_zero_iff]
    constructor
    · intro read
      rcases read with ⟨rfl, rfl⟩
      exact ⟨rfl, rfl, nofun⟩
    · intro written
      rcases written with ⟨rfl, rfl, -⟩
      exact ⟨rfl, rfl⟩
  | succ n ih =>
    simp only [times_succ, Outcome.bind_eq_done, reads _ _ _, closed.splits_iff, ih,
      Outcome.done.injEq]
    constructor
    · intro read
      rcases read with ⟨value, _, ⟨rfl, fits⟩, values, _, ⟨rfl, rfl, fit⟩, rfl, rfl⟩
      refine ⟨rfl, by rw [List.flatMap_cons, List.append_assoc], ?_⟩
      exact List.forall_mem_cons.2 ⟨fits, fit⟩
    · intro written
      rcases written with ⟨count, rfl, fit⟩
      obtain ⟨value, values, rfl⟩ := List.exists_cons_of_length_eq_add_one count
      obtain ⟨fits, fit⟩ := List.forall_mem_cons.1 fit
      refine ⟨value, _, ⟨?_, fits⟩, values, rest, ⟨Nat.succ.inj count, rfl, fit⟩, rfl, rfl⟩
      rw [List.flatMap_cons, List.append_assoc]

/-- A count and then as many values: the count is that of the values, whatever it claims. -/
theorem run_counted_eq_done (reads : reader.Reads layout) (closed : layout.Closed)
    {bytes rest : Bytes} {values : List α} :
    (∃ count middle, word32.run bytes = .done count middle ∧
        (reader.replicate count.toNat).run middle = .done values rest) ↔
      layout.counted.Splits bytes values rest := by
  rw [layout.counted_closed.splits_iff]
  simp only [replicate, run_word32_eq_done, reads.times_eq_done closed]
  constructor
  · intro read
    rcases read with ⟨count, _, rfl, length, rfl, fit⟩
    have small : values.length < 4294967296 := length ▸ count.toNat_lt
    have same : lengthWord values.length = count := by
      rw [← UInt32.toNat_inj, lengthWord_toNat small, length]
    refine ⟨?_, small, fit⟩
    show _ = ofWord32 (lengthWord values.length) ++ values.flatMap layout.write ++ rest
    rw [same, List.append_assoc]
  · intro written
    rcases written with ⟨rfl, small, fit⟩
    exact ⟨_, _, List.append_assoc .., (lengthWord_toNat small).symm, rfl, fit⟩

/-- Values read to the end: the bytes are written values and nothing else. -/
theorem untilEmpty_eq_done (reads : reader.Reads layout) (closed : layout.Closed)
    (nonempty : ∀ value, layout.write value ≠ []) {bound : Nat} {bytes rest : Bytes}
    {values : List α} (enough : bytes.length ≤ bound) :
    reader.untilEmpty bound bytes = .done values rest ↔
      bytes = values.flatMap layout.write ∧ rest = [] ∧ ∀ value ∈ values, layout.Fits value := by
  induction bound generalizing bytes values rest with
  | zero =>
    obtain rfl := List.length_eq_zero_iff.1 (Nat.le_zero.1 enough)
    exact untilEmpty_nil_iff nonempty
  | succ bound ih =>
    cases bytes with
    | nil => exact untilEmpty_nil_iff nonempty
    | cons first tail =>
      simp only [untilEmpty_cons, Outcome.bind_eq_done, reads _ _ _, closed.splits_iff,
        Outcome.done.injEq]
      -- A value takes at least one byte, so what follows it is within the smaller bound.
      have shorter {value : α} {middle : Bytes}
          (split : first :: tail = layout.write value ++ middle) : middle.length ≤ bound := by
        have length := congrArg List.length split
        have some := List.length_pos_iff.2 (nonempty value)
        simp only [List.length_cons, List.length_append] at length enough
        omega
      constructor
      · intro read
        rcases read with ⟨value, middle, ⟨split, fits⟩, values, _, read, rfl, rfl⟩
        obtain ⟨rfl, rfl, fit⟩ := (ih (shorter split)).1 read
        exact ⟨split, rfl, List.forall_mem_cons.2 ⟨fits, fit⟩⟩
      · intro written
        rcases written with ⟨split, rfl, fit⟩
        cases values with
        | nil => cases split
        | cons value values =>
          obtain ⟨fits, fit⟩ := List.forall_mem_cons.1 fit
          rw [List.flatMap_cons] at split
          have others := (ih (shorter split)).2 ⟨rfl, rfl, fit⟩
          exact ⟨value, _, ⟨split, fits⟩, values, [], others, rfl, rfl⟩

theorem toEnd_reads (reads : reader.Reads layout) (closed : layout.Closed)
    (nonempty : ∀ value, layout.write value ≠ []) : reader.toEnd.Reads layout.row := by
  intro bytes values rest
  rw [toEnd, reads.untilEmpty_eq_done closed nonempty (Nat.le_refl _)]
  constructor
  · intro read
    rcases read with ⟨rfl, rfl, fit⟩
    exact ⟨(List.append_nil _).symm, fit, fun _ => rfl⟩
  · intro written
    rcases written with ⟨split, fit, last⟩
    obtain rfl := last trivial
    exact ⟨split.trans (List.append_nil _), rfl, fit⟩

end Reads

end Reader

end SftpWire
