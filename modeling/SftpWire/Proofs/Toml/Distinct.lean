import SftpWire.Proofs.Toml.Scan
import SftpWire.Toml.Document

/-!
No table of a document has a key twice. Whatever a line adds is added only where its key is not
there yet, so each line keeps this of the document before it (`Draft.distinct_add`), the tables that
are values have it from the same rule, and by induction on the lines a whole document has it
(`distinct_of_parse?`). In such a table a key has one value, the one that is found
(`Table.Distinct.find?_eq_some_iff`).
-/

namespace SftpWire.Toml

/-- No table in a value has a key twice. -/
inductive Value.Distinct : Value → Prop
  | text (content : String) : Distinct (.text content)
  | integer (n : Int) : Distinct (.integer n)
  | float (literal : String) : Distinct (.float literal)
  | boolean (b : Bool) : Distinct (.boolean b)
  | moment (literal : String) : Distinct (.moment literal)
  | array {items : List Value} (each : ∀ item ∈ items, Distinct item) : Distinct (.array items)
  | table {origin : Origin} {entries : List (String × Value)}
    (keys : (entries.map Prod.fst).Nodup) (each : ∀ entry ∈ entries, Distinct entry.2) :
    Distinct (.table origin entries)
  | tables {tables : List (List (String × Value))}
    (keys : ∀ table ∈ tables, (table.map Prod.fst).Nodup)
    (each : ∀ table ∈ tables, ∀ entry ∈ table, Distinct entry.2) : Distinct (.tables tables)

/-- A table has no key twice, and neither has any table in it. -/
structure Table.Distinct (table : Table) : Prop where
  keys : (table.map Prod.fst).Nodup
  each : ∀ entry ∈ table, entry.2.Distinct

namespace Value

theorem distinct_table_iff {origin : Origin} {entries : Table} :
    (Value.table origin entries).Distinct ↔ entries.Distinct := by
  constructor
  · intro distinct
    cases distinct with
    | table keys each => exact ⟨keys, each⟩
  · exact fun distinct => .table distinct.keys distinct.each

theorem distinct_tables_iff {tables : List Table} :
    (Value.tables tables).Distinct ↔ ∀ table ∈ tables, Table.Distinct table := by
  constructor
  · intro distinct
    cases distinct with
    | tables keys each => exact fun table member => ⟨keys table member, each table member⟩
  · intro distinct
    exact .tables (fun table member => (distinct table member).keys)
      (fun table member => (distinct table member).each)

end Value

namespace Table

variable {table : Table} {key : String} {value : Value}

/-! ## Keys and their values -/

theorem find?_eq_none_iff : table.find? key = none ↔ key ∉ table.map Prod.fst := by
  rw [find?, List.lookup_eq_none_iff]
  simp only [List.mem_map, not_exists, not_and, bne_iff_ne, ne_eq, @eq_comm _ key]

theorem mem_of_find? (found : table.find? key = some value) : (key, value) ∈ table := by
  obtain ⟨front, behind, rfl, -⟩ := List.lookup_eq_some_iff.1 found
  exact List.mem_append_right front List.mem_cons_self

/-- What is found under a key is the one value that the key has. -/
theorem Distinct.find?_eq_some_iff (distinct : table.Distinct) :
    table.find? key = some value ↔ (key, value) ∈ table := by
  refine ⟨mem_of_find?, fun member => ?_⟩
  obtain ⟨front, behind, rfl⟩ := List.append_of_mem member
  refine List.lookup_eq_some_iff.2 ⟨front, behind, rfl, fun entry isFront => bne_iff_ne.2 ?_⟩
  have keys := distinct.keys
  rw [List.map_append, List.nodup_append] at keys
  exact (keys.2.2 entry.1 (List.mem_map_of_mem isFront) key List.mem_cons_self).symm

theorem Distinct.of_find? (distinct : table.Distinct) (found : table.find? key = some value) :
    value.Distinct :=
  distinct.each _ (mem_of_find? found)

/-! ## Adding and replacing -/

theorem distinct_nil : Distinct [] :=
  ⟨List.nodup_nil, nofun⟩

theorem Distinct.add (distinct : table.Distinct) (absent : table.find? key = none)
    (isDistinct : value.Distinct) : (table.add key value).Distinct where
  keys := by
    rw [Table.add, List.map_append, List.nodup_append]
    refine ⟨distinct.keys, by simp, fun other isOther same isSame => ?_⟩
    rintro rfl
    obtain rfl := List.mem_singleton.1 isSame
    exact find?_eq_none_iff.1 absent isOther
  each := by
    intro entry member
    rcases List.mem_append.1 member with before | last
    · exact distinct.each entry before
    · obtain rfl := List.mem_singleton.1 last
      exact isDistinct

/-- Other values change no keys. -/
theorem keys_replace (key : String) (value : Value) (table : Table) :
    (table.replace key value).map Prod.fst = table.map Prod.fst := by
  rw [replace, List.map_map]
  refine List.map_congr_left fun entry _ => ?_
  rw [Function.comp_apply]
  split
  · next same => exact (beq_iff_eq.1 same).symm
  · rfl

theorem Distinct.replace (distinct : table.Distinct) (key : String)
    (isDistinct : value.Distinct) : (table.replace key value).Distinct where
  keys := by
    rw [keys_replace]
    exact distinct.keys
  each := by
    intro entry member
    obtain ⟨old, isOld, rfl⟩ := List.mem_map.1 member
    split
    · exact isDistinct
    · exact distinct.each old isOld

/-- A table in a table may be changed by what leaves no key twice in it. -/
theorem Distinct.replace_table (distinct : table.Distinct) {origin : Origin} {child child' : Table}
    (found : table.find? key = some (.table origin child)) (origin' : Origin)
    (kept : child.Distinct → child'.Distinct) :
    (table.replace key (.table origin' child')).Distinct :=
  distinct.replace key <|
    Value.distinct_table_iff.2 (kept (Value.distinct_table_iff.1 (distinct.of_find? found)))

/-- So may the last of the tables that share a header. -/
theorem Distinct.replace_last (distinct : table.Distinct) {children : List Table}
    {child child' : Table} (found : table.find? key = some (.tables children))
    (isLast : children.getLast? = some child) (kept : child.Distinct → child'.Distinct) :
    (table.replace key (.tables (children.dropLast ++ [child']))).Distinct := by
  have each := Value.distinct_tables_iff.1 (distinct.of_find? found)
  refine distinct.replace key (Value.distinct_tables_iff.2 fun other member => ?_)
  rcases List.mem_append.1 member with before | last
  · exact each other (List.dropLast_subset children before)
  · obtain rfl := List.mem_singleton.1 last
    exact kept (each child (List.mem_of_getLast? isLast))

/-! ## What lines do to tables -/

/-- A change leaves no key twice where none was. -/
def Keeps (change : Table → Option Table) : Prop :=
  ∀ table changed, Distinct table → change table = some changed → Distinct changed

theorem keeps_openTable (key : String) : Keeps (openTable key) := by
  intro table changed distinct isChanged
  rw [openTable] at isChanged
  split at isChanged
  · next absent =>
    obtain rfl := Option.some.inj isChanged
    exact distinct.add absent (Value.distinct_table_iff.2 distinct_nil)
  · next child found =>
    obtain rfl := Option.some.inj isChanged
    exact distinct.replace_table found .header id
  · cases isChanged

theorem keeps_openNext (key : String) : Keeps (openNext key) := by
  intro table changed distinct isChanged
  rw [openNext] at isChanged
  split at isChanged
  · next absent =>
    obtain rfl := Option.some.inj isChanged
    refine distinct.add absent (Value.distinct_tables_iff.2 ?_)
    simpa using distinct_nil
  · next children found =>
    obtain rfl := Option.some.inj isChanged
    have inner := Value.distinct_tables_iff.1 (distinct.of_find? found)
    refine distinct.replace key (Value.distinct_tables_iff.2 fun child member => ?_)
    rcases List.mem_append.1 member with before | last
    · exact inner child before
    · obtain rfl := List.mem_singleton.1 last
      exact distinct_nil
  · cases isChanged

theorem Keeps.update {change : Table → Option Table} (keeps : Keeps change) (path : List String) :
    Keeps (update change path) := by
  induction path with
  | nil => exact keeps
  | cons key path ih =>
    intro table changed distinct isChanged
    rw [Table.update] at isChanged
    split at isChanged
    · next absent =>
      obtain ⟨child, isChild, rfl⟩ := Option.map_eq_some_iff.1 isChanged
      exact distinct.add absent (Value.distinct_table_iff.2 (ih _ _ distinct_nil isChild))
    · cases isChanged
    · next origin child _ found =>
      obtain ⟨child', isChild, rfl⟩ := Option.map_eq_some_iff.1 isChanged
      exact distinct.replace_table found origin fun inner => ih _ _ inner isChild
    · next children found =>
      split at isChanged
      · cases isChanged
      · next child isLast =>
        obtain ⟨child', isChild, rfl⟩ := Option.map_eq_some_iff.1 isChanged
        exact distinct.replace_last found isLast fun inner => ih _ _ inner isChild
    · cases isChanged

theorem keeps_insert (key : String) {value : Value} (isDistinct : value.Distinct)
    (path : List String) : Keeps (insert key value path) := by
  induction path with
  | nil =>
    intro table changed distinct isChanged
    rw [insert] at isChanged
    split at isChanged
    · next absent =>
      obtain rfl := Option.some.inj isChanged
      exact distinct.add absent isDistinct
    · cases isChanged
  | cons parent path ih =>
    intro table changed distinct isChanged
    rw [insert] at isChanged
    split at isChanged
    · next absent =>
      obtain ⟨child, isChild, rfl⟩ := Option.map_eq_some_iff.1 isChanged
      exact distinct.add absent (Value.distinct_table_iff.2 (ih _ _ distinct_nil isChild))
    · next child found =>
      obtain ⟨child', isChild, rfl⟩ := Option.map_eq_some_iff.1 isChanged
      exact distinct.replace_table found .dotted fun inner => ih _ _ inner isChild
    · next child found =>
      split at isChanged
      · cases isChanged
      · obtain ⟨child', isChild, rfl⟩ := Option.map_eq_some_iff.1 isChanged
        exact distinct.replace_table found .implied fun inner => ih _ _ inner isChild
    · next children found =>
      split at isChanged
      · next child isLast =>
        obtain ⟨child', isChild, rfl⟩ := Option.map_eq_some_iff.1 isChanged
        exact distinct.replace_last found isLast fun inner => ih _ _ inner isChild
      · cases isChanged
    · cases isChanged

theorem distinct_of_ofPairs? {pairs : List ((List String × String) × Value)} {table : Table}
    (each : ∀ pair ∈ pairs, pair.2.Distinct) (made : ofPairs? pairs = some table) :
    table.Distinct := by
  have run (pairs : List ((List String × String) × Value)) (start : Table)
      (each : ∀ pair ∈ pairs, pair.2.Distinct) (distinct : start.Distinct)
      (made : pairs.foldlM (fun table pair => table.insert pair.1.2 pair.2 pair.1.1) start =
        some table) : table.Distinct := by
    induction pairs generalizing start with
    | nil =>
      obtain rfl := Option.some.inj made
      exact distinct
    | cons pair pairs ih =>
      obtain ⟨first, others⟩ := List.forall_mem_cons.1 each
      rw [List.foldlM_cons] at made
      obtain ⟨next, isNext, rest⟩ := Option.bind_eq_some_iff.1 made
      exact ih next others (keeps_insert _ first _ _ _ distinct isNext) rest
  exact run pairs [] each distinct_nil made

end Table

/-! ## Values -/

open Scan

theorem gives_distinct_scalar : Gives Value.Distinct scalar := by
  rw [scalar]
  refine gives_orElse ?_ (gives_orElse ?_ (gives_orElse ?_ (gives_orElse ?_ ?_)))
  all_goals
    refine gives_map fun text value rest given => ?_
    constructor

section

variable {scan : Scan Value}

theorem gives_distinct_array (gives : Gives Value.Distinct scan) :
    Gives (fun items => ∀ item ∈ items, item.Distinct) (array scan) := by
  have item : Gives Value.Distinct (gap *> scan <* gap) :=
    gives_seqLeft (gives_seqRight gives) gap
  refine gives_bind fun _ => (gives_optional (gives_separated item (char ','))).bind
    fun items areItems => ?_
  have closed : Gives (fun items => ∀ item ∈ items, item.Distinct)
      (gap >>= fun _ => char ']' >>= fun _ => pure (items.getD [])) := by
    refine gives_bind fun _ => gives_bind fun _ => gives_pure ?_
    cases items with
    | none => nofun
    | some items => exact areItems items rfl
  dsimp only
  split
  · exact gives_bind fun _ => closed
  · exact closed

theorem gives_distinct_assignment (gives : Gives Value.Distinct scan) :
    Gives (fun pair => pair.2.Distinct) (assignment scan) :=
  gives_bind fun _ => gives_bind fun _ => gives_bind fun _ => gives.bind fun _ isDistinct =>
    gives_pure isDistinct

theorem gives_distinct_inlineTable (gives : Gives Value.Distinct scan) :
    Gives Table.Distinct (inlineTable scan) := by
  have pair := gives_seqLeft (gives_distinct_assignment gives) blanks
  refine gives_bind fun _ => (gives_optional (gives_separated pair (char ','))).bind
    fun pairs arePairs => gives_bind fun _ => gives_bind fun _ => gives_ofOption ?_
  intro table made
  refine Table.distinct_of_ofPairs? ?_ made
  cases pairs with
  | none => nofun
  | some pairs => exact arePairs pairs rfl

end

theorem gives_distinct_value (depth : Nat) : Gives Value.Distinct (value depth) := by
  induction depth with
  | zero => exact gives_distinct_scalar
  | succ depth ih =>
    refine gives_bind fun next => ?_
    split
    · exact gives_map fun text items rest given =>
        .array (gives_distinct_array ih text items rest given)
    · exact gives_map fun text table rest given =>
        Value.distinct_table_iff.2 (gives_distinct_inlineTable ih text table rest given)
    · exact gives_distinct_scalar

/-! ## Lines -/

/-- A value that a line gives has no key twice. -/
def Statement.Distinct : Statement → Prop
  | .assign _ _ value => value.Distinct
  | _ => True

theorem gives_distinct_statement : Gives Statement.Distinct statement := by
  refine gives_orElse ?_ (gives_orElse ?_ ?_)
  · exact gives_bind fun _ => gives_bind fun _ => gives_bind fun _ => gives_pure trivial
  · exact gives_bind fun _ => gives_bind fun _ => gives_bind fun _ => gives_pure trivial
  · exact (gives_distinct_assignment (gives_distinct_value nestingLimit)).bind
      fun pair isDistinct => gives_pure isDistinct

theorem gives_distinct_line :
    Gives (fun said => ∀ statement ∈ said, Statement.Distinct statement) line :=
  gives_bind fun _ => (gives_optional gives_distinct_statement).bind fun _ isDistinct =>
    gives_bind fun _ => gives_bind fun _ => gives_bind fun _ => gives_pure isDistinct

theorem distinct_of_linesWithin {bound text : List Char} {said : List Statement}
    (read : linesWithin bound text = some said) : ∀ statement ∈ said, statement.Distinct := by
  induction bound generalizing text said with
  | nil =>
    cases text with
    | nil =>
      obtain rfl := Option.some.inj read
      nofun
    | cons c text => cases read
  | cons c bound ih =>
    cases text with
    | nil =>
      obtain rfl := Option.some.inj read
      nofun
    | cons d text =>
      simp only [linesWithin] at read
      split at read
      · cases read
      · next first rest isFirst =>
        obtain ⟨others, areOthers, rfl⟩ := Option.map_eq_some_iff.1 read
        intro statement member
        rcases List.mem_append.1 member with isSaid | isOther
        · exact gives_distinct_line _ _ _ isFirst statement (Option.mem_toList.1 isSaid)
        · exact ih areOthers statement isOther

/-! ## Documents -/

/-- A line leaves no key twice where none was. -/
theorem Draft.distinct_add {draft next : Draft} {statement : Statement}
    (distinct : draft.root.Distinct) (isDistinct : statement.Distinct)
    (added : draft.add statement = some next) : next.root.Distinct := by
  cases statement with
  | table parents last =>
    obtain ⟨root, isRoot, rfl⟩ := Option.map_eq_some_iff.1 added
    exact (Table.keeps_openTable last).update parents _ _ distinct isRoot
  | next parents last =>
    obtain ⟨root, isRoot, rfl⟩ := Option.map_eq_some_iff.1 added
    exact (Table.keeps_openNext last).update parents _ _ distinct isRoot
  | assign parents last value =>
    obtain ⟨root, isRoot, rfl⟩ := Option.map_eq_some_iff.1 added
    exact (Table.keeps_insert last isDistinct parents).update draft.path _ _ distinct isRoot

theorem Draft.distinct_of_foldlM {said : List Statement} {draft last : Draft}
    (each : ∀ statement ∈ said, statement.Distinct) (distinct : draft.root.Distinct)
    (added : said.foldlM Draft.add draft = some last) : last.root.Distinct := by
  induction said generalizing draft with
  | nil =>
    obtain rfl := Option.some.inj added
    exact distinct
  | cons statement said ih =>
    obtain ⟨first, others⟩ := List.forall_mem_cons.1 each
    rw [List.foldlM_cons] at added
    obtain ⟨next, isNext, rest⟩ := Option.bind_eq_some_iff.1 added
    exact ih others (Draft.distinct_add distinct first isNext) rest

/-- No table of a document has a key twice. -/
theorem distinct_of_parse? {text : String} {document : Table}
    (parsed : parse? text = some document) : document.Distinct := by
  obtain ⟨said, isSaid, afterwards⟩ := Option.bind_eq_some_iff.1 parsed
  obtain ⟨draft, isDraft, ⟨⟩⟩ := Option.bind_eq_some_iff.1 afterwards
  refine Draft.distinct_of_foldlM ?_ Table.distinct_nil isDraft
  rw [statements?.eq_def] at isSaid
  split at isSaid
  · exact distinct_of_linesWithin isSaid
  · exact distinct_of_linesWithin isSaid

end SftpWire.Toml
