import SftpWire.Proofs.Wire.Field
import SftpWire.Wire.Queue

/-!
A queue in use loses no byte and makes none up. The account of a step names what it takes off the
front and what it puts at the back, and what its answer has to do with the former
(`Queue.Step.Accounted`); the accounts of steps add up to that of a run. What a step puts at the
back (`Queue.Step.Adds`) is told by lengths and by what bytes are worth, apart from how the queue
writes it. Main statement: `Queue.run_lossless`.
-/

namespace SftpWire

/-! ## Strings over the content of a destination -/

/-- A string that is read over the content of a destination is the string that is read without, also
in how it runs short. -/
theorem Reader.stringInto_eq (destination : Bytes) : stringInto destination = string := by
  refine congrArg Reader.mk (funext fun bytes => ?_)
  show _ = (word32.run bytes).bind fun length rest => (raw length.toNat).run rest
  cases word32.run bytes with
  | short rest => rfl
  | done length rest =>
    simp only [Outcome.bind_done, raw, Bytes.split?, List.take_zero, List.nil_append]
    split <;> rfl

namespace Queue

namespace Step

/-! ## Accounts -/

/-- What a step puts at the back: the bytes that a value is written as, told by what they are worth,
or the bytes that it is given. -/
def Adds : Step → Bytes → Prop
  | .put value, bytes => value.Written bytes
  | .putRaw given, bytes => bytes = given
  | .take _, bytes | .takeRaw _, bytes | .takeAll, bytes | .takeInto _, bytes => bytes = []

/-- What a step takes off the front: so much as is no longer there afterwards. -/
def removed (step : Step) (queue : Bytes) : Bytes :=
  queue.take (queue.length - (step.run queue).2.length)

/-- How many bytes must be in the queue for a step not to fail. -/
def needs : Step → Bytes → Nat
  | .take field, queue => field.needs queue
  | .takeRaw n, _ => n
  | .takeInto _, queue => Field.string.needs queue
  | .takeAll, _ | .put _, _ | .putRaw _, _ => 0

/-- How many bytes a step takes when it fails: the length of a string, if that was there. -/
def lost : Step → Bytes → Nat
  | .take field, queue => field.lost queue
  | .takeInto _, queue => Field.string.lost queue
  | .takeRaw _, _ | .takeAll, _ | .put _, _ | .putRaw _, _ => 0

/-- What a step that does not fail answers for the bytes that it takes. -/
def Answers : Step → Bytes → Answer → Prop
  | .take field, bytes, answer =>
    ∃ value : Value, answer = .value value ∧ value.field = field ∧ value.Spelled bytes
  | .takeInto _, bytes, answer =>
    ∃ text, answer = .value (.string text) ∧ (Value.string text).Spelled bytes
  | .takeRaw n, bytes, answer => answer = .bytes bytes ∧ bytes.length = n
  | .takeAll, bytes, answer => answer = .bytes bytes
  | .put _, bytes, answer => answer = .nothing ∧ bytes = []
  | .putRaw _, bytes, answer => answer = .nothing ∧ bytes = []

/-- The account of one step. Bytes that are taken and bytes that are left are those there were and
those that are put behind them. The step fails exactly when too few bytes are there, and by
running short; what it takes then is known, and otherwise it answers for what it takes. -/
structure Accounted (step : Step) (queue : Bytes) : Prop where
  balance : ∃ added, step.Adds added ∧
    step.removed queue ++ (step.run queue).2 = queue ++ added
  short_iff : (step.run queue).1 = .short ↔ queue.length < step.needs queue
  removed_of_short :
    queue.length < step.needs queue → step.removed queue = queue.take (step.lost queue)
  answers_of_enough :
    step.needs queue ≤ queue.length → step.Answers (step.removed queue) (step.run queue).1

variable {step : Step} {queue front rest added added' : Bytes} {answer : Answer}

theorem Adds.unique (adds : step.Adds added) (adds' : step.Adds added') : added = added' := by
  cases step with
  | put value => rw [Value.written_iff.1 adds, Value.written_iff.1 adds']
  | _ => exact Eq.trans adds (Eq.symm adds')

theorem removed_eq_of_append (runs : step.run queue = (answer, rest))
    (split : queue = front ++ rest) : step.removed queue = front := by
  rw [removed, runs, split, List.length_append, Nat.add_sub_cancel, List.take_left]

theorem balance_of_append (runs : step.run queue = (answer, rest)) (split : queue = front ++ rest)
    (adds : step.Adds []) :
    ∃ added, step.Adds added ∧ step.removed queue ++ (step.run queue).2 = queue ++ added :=
  ⟨[], adds, by rw [removed_eq_of_append runs split, runs, List.append_nil, split]⟩

theorem removed_eq_nil (runs : step.run queue = (answer, queue ++ rest)) :
    step.removed queue = [] := by
  rw [removed, runs, List.length_append, Nat.sub_add_eq, Nat.sub_self, Nat.zero_sub, List.take_zero]

/-- The account of a step that reads off the front: the reader runs short on too few bytes, and
otherwise it takes those that it answers for. -/
theorem accounted_of_read {α : Type} {reader : Reader α} {tell : α → Answer}
    (runs : step.run queue = read reader tell queue) (adds : step.Adds [])
    (tells : ∀ value, tell value ≠ .short)
    (short : ∀ rest, reader.run queue = .short rest ↔
      queue.length < step.needs queue ∧ rest = queue.drop (step.lost queue))
    (done : ∀ value rest, reader.run queue = .done value rest →
      ∃ front, queue = front ++ rest ∧ step.Answers front (tell value)) :
    step.Accounted queue := by
  rw [read] at runs
  cases run : reader.run queue with
  | short rest =>
    obtain ⟨few, left⟩ := (short rest).1 run
    rw [run] at runs
    have split : queue = queue.take (step.lost queue) ++ rest := by
      rw [left, List.take_append_drop]
    refine ⟨balance_of_append runs split adds, iff_of_true (by rw [runs]) few,
      fun _ => removed_eq_of_append runs split, fun enough => ?_⟩
    omega
  | done value rest =>
    obtain ⟨front, split, answers⟩ := done value rest run
    rw [run] at runs
    have enough : ¬ queue.length < step.needs queue := by
      intro few
      rw [(short _).2 ⟨few, rfl⟩] at run
      cases run
    refine ⟨balance_of_append runs split adds, iff_of_false ?_ enough,
      fun few => absurd few enough, fun _ => ?_⟩
    · rw [runs]
      exact tells value
    · rw [removed_eq_of_append runs split, runs]
      exact answers

/-- The account of a step that puts bytes at the back. -/
theorem accounted_of_put (runs : step.run queue = (.nothing, queue ++ added))
    (adds : step.Adds added) (needless : step.needs queue = 0)
    (answers : step.Answers [] .nothing) : step.Accounted queue := by
  have removed := removed_eq_nil runs
  refine ⟨⟨added, adds, ?_⟩, iff_of_false ?_ ?_, fun few => ?_, fun _ => ?_⟩
  · rw [removed, runs, List.nil_append]
  · rw [runs]
    nofun
  · omega
  · omega
  · rw [removed, runs]
    exact answers

/-- Every step, on every queue, is accounted for. -/
theorem accounted (step : Step) (queue : Bytes) : step.Accounted queue := by
  cases step with
  | take field =>
    refine accounted_of_read rfl rfl nofun (fun rest => Field.run_reader_eq_short) ?_
    intro value rest run
    obtain ⟨kind, front, spelled, split⟩ := Field.run_reader_eq_done.1 run
    exact ⟨front, split, value, rfl, kind, spelled⟩
  | takeRaw n =>
    refine accounted_of_read rfl rfl nofun (fun rest => Reader.run_raw_eq_short) ?_
    intro bytes rest run
    obtain ⟨split, length⟩ := Reader.run_raw_eq_done.1 run
    exact ⟨bytes, split, rfl, length⟩
  | takeAll =>
    have runs : takeAll.run queue = read Reader.remaining .bytes queue := rfl
    refine accounted_of_read runs rfl nofun (fun rest => ?_) ?_
    · exact iff_of_false nofun fun short => absurd short.1 (Nat.not_lt_zero _)
    · intro bytes rest run
      obtain ⟨rfl, rfl⟩ := Reader.run_remaining_eq_done.1 run
      exact ⟨queue, (List.append_nil queue).symm, rfl⟩
  | takeInto destination =>
    refine accounted_of_read rfl rfl nofun (fun rest => ?_) ?_
    · rw [Reader.stringInto_eq]
      exact Reader.run_string_eq_short
    · intro text rest run
      rw [Reader.stringInto_eq] at run
      obtain ⟨split, small⟩ := Reader.run_string_eq_done.1 run
      exact ⟨Bytes.ofString text, split, text, rfl, rfl, small⟩
  | put value => exact accounted_of_put rfl (Value.written_iff.2 rfl) rfl ⟨rfl, rfl⟩
  | putRaw bytes => exact accounted_of_put rfl rfl rfl ⟨rfl, rfl⟩

/-- A string that is taken into a destination is the string that is taken without one. -/
theorem run_takeInto (destination queue : Bytes) :
    (takeInto destination).run queue = (take .string).run queue := by
  show read (Reader.stringInto destination) _ queue = read (Value.string <$> Reader.string) _ queue
  rw [Reader.stringInto_eq, read, read, Reader.run_map]
  cases Reader.string.run queue <;> rfl

end Step

/-! ## Runs -/

/-- What the steps of a run put at the back, in turn. -/
inductive Adds : List Step → Bytes → Prop
  | nil : Adds [] []
  | cons {step : Step} {steps : List Step} {front behind : Bytes} (first : step.Adds front)
    (others : Adds steps behind) : Adds (step :: steps) (front ++ behind)

/-- What the steps of a run take off the front, in turn. -/
def removed : List Step → Bytes → Bytes
  | [], _ => []
  | step :: steps, queue => step.removed queue ++ removed steps (step.run queue).2

theorem Adds.unique {steps : List Step} {added added' : Bytes} (adds : Adds steps added)
    (adds' : Adds steps added') : added = added' := by
  induction adds generalizing added' with
  | nil =>
    cases adds'
    rfl
  | cons first others ih =>
    cases adds' with
    | cons first' others' => rw [first.unique first', ih others']

theorem run_balance (steps : List Step) (queue : Bytes) :
    ∃ added, Adds steps added ∧ removed steps queue ++ (run steps queue).2 = queue ++ added := by
  induction steps generalizing queue with
  | nil => exact ⟨[], .nil, (List.append_nil queue).symm⟩
  | cons step steps ih =>
    obtain ⟨front, first, balance⟩ := (step.accounted queue).balance
    obtain ⟨behind, others, rest⟩ := ih (step.run queue).2
    refine ⟨front ++ behind, .cons first others, ?_⟩
    calc removed (step :: steps) queue ++ (run (step :: steps) queue).2
      _ = step.removed queue ++
          (removed steps (step.run queue).2 ++ (run steps (step.run queue).2).2) :=
        List.append_assoc ..
      _ = step.removed queue ++ (step.run queue).2 ++ behind := by
        rw [rest, List.append_assoc]
      _ = queue ++ (front ++ behind) := by
        rw [balance, List.append_assoc]

/-- Bytes go through the queue in order, and none is lost or made up: after any run, failing steps
and all, what the steps have taken and what is left is what there was and what the steps have put
behind it, which is what their values are written as and nothing else. Each step is accounted for,
whatever queue it finds, and it is the same whether a string is taken into a destination or not,
whatever that held. -/
theorem run_lossless :
    (∀ (steps : List Step) (queue : Bytes),
      ∃ added, (∀ bytes, Adds steps bytes ↔ bytes = added) ∧
        removed steps queue ++ (run steps queue).2 = queue ++ added) ∧
    (∀ (step : Step) (queue : Bytes), step.Accounted queue) ∧
    ∀ destination queue : Bytes,
      (Step.takeInto destination).run queue = (Step.take .string).run queue := by
  refine ⟨fun steps queue => ?_, Step.accounted, Step.run_takeInto⟩
  obtain ⟨added, adds, balance⟩ := run_balance steps queue
  refine ⟨added, fun bytes => ⟨fun adds' => adds'.unique adds, ?_⟩, balance⟩
  rintro rfl
  exact adds

/-- A string of nine bytes that has one: its length is gone, and the byte is the next one taken. -/
example :
    run [.takeInto [7], .take .word16, .put (.word16 258), .take .word16] [0, 0, 0, 9, 1] =
      ([.short, .short, .nothing, .value (.word16 257)], [2]) := by
  decide

end Queue

end SftpWire
