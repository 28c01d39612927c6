import Mathlib.Data.List.Forall2
import SchemaCodegen.Proofs.Generation.Outcome

/-!
# The first bad row of a table

The rows of a schema stay undecoded until their table is opened. The stream of
an opened table has one item per row, and an item depends on its own row and
its number alone, so that a malformed row hides nothing that follows it. It is
the ordering adapter that stops. Whether and why a table yields no source is
decided by its first bad row: a malformed one, or one whose ordinal does not
exceed that of the row before it.
-/

namespace SchemaCodegen.Schema

open Document

/-! ## Good and bad rows -/

/-- Rows decode to columns, one by one. -/
def Spell (rows : List Node) (columns : List Column) : Prop :=
  List.Forall₂ (fun row c => Row.column row = .ok c) rows columns

/-- The first `k` rows are columns with the given ordinals, which increase strictly from above
zero. -/
def InOrder (rows : List Node) (k : Nat) (ordinals : List Nat) : Prop :=
  ∃ columns, Spell (rows.take k) columns ∧ columns.map Column.ordinal = ordinals ∧
    Ascending columns

/-- The row after the first `k` is malformed, and nothing is wrong before it. -/
structure FirstMalformed (rows : List Node) (k : Nat) (fault : Fault) : Prop where
  earlier : ∃ ordinals, InOrder rows k ordinals
  here : ∃ row, rows[k]? = some row ∧ Row.column row = .error fault

/-- The row after the first `k` is a column whose ordinal `found` does not exceed the ordinal
`previous` of the row before it, or zero if there is none, and nothing is wrong before it. -/
structure FirstDisordered (rows : List Node) (k previous found : Nat) : Prop where
  earlier : ∃ ordinals, InOrder rows k ordinals ∧ ordinals.getLast?.getD 0 = previous
  here : ∃ row c, rows[k]? = some row ∧ Row.column row = .ok c ∧ c.ordinal = found
  le : found ≤ previous

/-- The stream item of the row after the first `k`: its column, or its fault under its number. -/
def rowItem (k : Nat) (decoded : Except Fault Column) : StreamItem :=
  match decoded with
  | .ok c => .ok c
  | .error fault => .error (.scan (k + 1) (fault.cause.message .positional))

/-! ## The stream of a table -/

@[simp] theorem getElem?_items (rows : List Node) (k : Nat) :
    (items rows)[k]? = rows[k]?.map fun row => rowItem k (Row.column row) := by
  rw [items, List.getElem?_mapIdx]
  rfl

@[simp]
theorem take_items (rows : List Node) (k : Nat) : (items rows).take k = items (rows.take k) := by
  apply List.ext_getElem?
  intro i
  simp only [getElem?_items, List.getElem?_take]
  split <;> rfl

/-- Items are columns exactly if their rows are. The numbers of the items vary in the induction. -/
theorem mapIdx_eq_map_ok_iff {item : Nat → Node → StreamItem}
    (h : ∀ k row c, item k row = .ok c ↔ Row.column row = .ok c) {rows : List Node}
    {columns : List Column} : rows.mapIdx item = columns.map .ok ↔ Spell rows columns := by
  induction rows generalizing item columns with
  | nil => cases columns <;> simp [Spell]
  | cons row rest ih =>
      cases columns with
      | nil => simp [Spell]
      | cons c later =>
          have hrest : rest.mapIdx (fun k => item (k + 1)) = later.map .ok ↔ Spell rest later := by
            apply ih
            intro k
            exact h (k + 1)
          simp [h, hrest, Spell]

theorem items_eq_map_ok_iff {rows : List Node} {columns : List Column} :
    items rows = columns.map .ok ↔ Spell rows columns := by
  apply mapIdx_eq_map_ok_iff
  intro k row c
  rw [Row.item]
  cases Row.column row <;> simp

/-! ## The first violation -/

theorem earlier_iff {rows : List Node} {k : Nat} :
    (∀ j < k, violationAt (items rows) j = none) ↔ ∃ ordinals, InOrder rows k ordinals := by
  rw [forall_lt_violationAt_eq_none_iff]
  simp only [take_items, items_eq_map_ok_iff, InOrder]
  constructor
  · rintro ⟨columns, hspell, hascending⟩
    exact ⟨_, columns, hspell, rfl, hascending⟩
  · rintro ⟨_, columns, hspell, -, hascending⟩
    exact ⟨columns, hspell, hascending⟩

/-- Behind rows in order, what is wrong with a row is judged by the last ordinal before it. -/
theorem violationAt_items {rows : List Node} {k : Nat} {ordinals : List Nat}
    (h : InOrder rows k ordinals) :
    violationAt (items rows) k =
      rows[k]?.bind fun row =>
        itemFault (ordinals.getLast?.getD 0) (rowItem k (Row.column row)) := by
  obtain ⟨columns, hspell, rfl, -⟩ := h
  rw [violationAt, violationAfter, take_items, items_eq_map_ok_iff.mpr hspell, lastOrdinal_map_ok,
    getElem?_items, Option.bind_map]
  rfl

/-- A malformed row is reported under its number. -/
theorem FirstMalformed.violation {rows : List Node} {k : Nat} {fault : Fault}
    (h : FirstMalformed rows k fault) :
    FirstViolation (items rows) k (.scan (k + 1) (fault.cause.message .positional)) := by
  obtain ⟨⟨ordinals, hearlier⟩, row, hrow, hfault⟩ := h
  refine ⟨?_, earlier_iff.mpr ⟨ordinals, hearlier⟩⟩
  rw [violationAt_items hearlier, hrow, Option.bind_some, hfault]
  rfl

/-- A row out of order is reported with both ordinals. -/
theorem FirstDisordered.violation {rows : List Node} {k previous found : Nat}
    (h : FirstDisordered rows k previous found) :
    FirstViolation (items rows) k (.outOfOrder previous found) := by
  obtain ⟨⟨ordinals, hearlier, rfl⟩, ⟨row, c, hrow, hcolumn, rfl⟩, hle⟩ := h
  refine ⟨?_, earlier_iff.mpr ⟨ordinals, hearlier⟩⟩
  rw [violationAt_items hearlier, hrow, Option.bind_some, hcolumn]
  exact if_pos hle

/-- **The first violation of a table's stream is its first bad row.** -/
theorem firstViolation_items_iff {rows : List Node} {k : Nat} {cause : StreamError} :
    FirstViolation (items rows) k cause ↔
      (∃ fault, FirstMalformed rows k fault ∧
        cause = .scan (k + 1) (fault.cause.message .positional)) ∨
      ∃ previous found, FirstDisordered rows k previous found ∧
        cause = .outOfOrder previous found := by
  constructor
  -- the rows before are columns in order, so only the row itself can be at fault
  · rintro ⟨hhere, hearlier⟩
    obtain ⟨ordinals, horder⟩ := earlier_iff.mp hearlier
    rw [violationAt_items horder] at hhere
    obtain ⟨row, hrow, hfault⟩ := Option.bind_eq_some_iff.mp hhere
    cases hcolumn : Row.column row with
    | error fault =>
        rw [hcolumn] at hfault
        cases hfault
        exact Or.inl ⟨fault, ⟨⟨ordinals, horder⟩, row, hrow, hcolumn⟩, rfl⟩
    | ok c =>
        rw [hcolumn, rowItem, itemFault] at hfault
        by_cases hle : c.ordinal ≤ ordinals.getLast?.getD 0
        · rw [if_pos hle] at hfault
          cases hfault
          exact Or.inr ⟨_, _, ⟨⟨ordinals, horder, rfl⟩, ⟨row, c, hrow, hcolumn, rfl⟩, hle⟩, rfl⟩
        · rw [if_neg hle] at hfault
          cases hfault
  · rintro (⟨fault, h, rfl⟩ | ⟨previous, found, h, rfl⟩)
    · exact h.violation
    · exact h.violation

/-! ## Opening and generating a table -/

variable {s : Schema} {table : String} {rows : List Node}

/-- The engine is compared before the table is looked up. -/
theorem openColumns_eq_provider_iff {engine : Engine} {message : String} :
    s.openColumns engine table = .error (.provider message) ↔
      engine ≠ s.engine ∧
        "schema describes a " ++ s.engine.name ++ " database, not " ++ engine.name = message := by
  unfold openColumns
  by_cases h : engine = s.engine
  · rw [if_neg (not_not.mpr h)]
    cases s.tables.lookup table <;> simp [h]
  · rw [if_pos h]
    simp [h]

theorem openColumns_eq_tableNotFound_iff {engine : Engine} {name : String} :
    s.openColumns engine table = .error (.tableNotFound name) ↔
      engine = s.engine ∧ s.tables.lookup table = none ∧ table = name := by
  unfold openColumns
  by_cases h : engine = s.engine
  · rw [if_neg (not_not.mpr h)]
    cases s.tables.lookup table <;> simp [h]
  · rw [if_pos h]
    simp [h]

theorem openColumns_of_lookup (h : s.tables.lookup table = some rows) :
    s.openColumns s.engine table = .ok (items rows) := by
  rw [openColumns, if_neg (not_not.mpr rfl), h]

theorem fails_iff (h : s.tables.lookup table = some rows) {cause : StreamError} :
    s.provider.Fails table cause ↔ ∃ k, FirstViolation (items rows) k cause := by
  have hopen : s.provider.openColumns table = .ok (items rows) := openColumns_of_lookup h
  constructor
  · rintro (hfailed | ⟨hopened, hfirst⟩)
    · rw [hopen] at hfailed
      cases hfailed
    · rw [hopen] at hopened
      cases hopened
      exact ⟨_, hfirst⟩
  · rintro ⟨k, hfirst⟩
    exact .violated hopen hfirst

theorem fails_scan_iff (h : s.tables.lookup table = some rows) {row : Nat} {message : String} :
    s.provider.Fails table (.scan row message) ↔
      ∃ k fault, FirstMalformed rows k fault ∧ row = k + 1 ∧
        message = fault.cause.message .positional := by
  rw [fails_iff h]
  simp only [firstViolation_items_iff, StreamError.scan.injEq, reduceCtorEq, and_false,
    exists_false, or_false]

theorem fails_outOfOrder_iff (h : s.tables.lookup table = some rows) {previous found : Nat} :
    s.provider.Fails table (.outOfOrder previous found) ↔
      ∃ k, FirstDisordered rows k previous found := by
  rw [fails_iff h]
  simp only [firstViolation_items_iff, reduceCtorEq, and_false, exists_false, false_or,
    StreamError.outOfOrder.injEq]
  constructor
  · rintro ⟨k, _, _, hfirst, rfl, rfl⟩
    exact ⟨k, hfirst⟩
  · rintro ⟨k, hfirst⟩
    exact ⟨k, _, _, hfirst, rfl, rfl⟩

theorem not_fails_iff (h : s.tables.lookup table = some rows) :
    (∀ cause, ¬ s.provider.Fails table cause) ↔
      ∀ k, (∀ fault, ¬ FirstMalformed rows k fault) ∧
        ∀ previous found, ¬ FirstDisordered rows k previous found := by
  simp only [fails_iff h]
  constructor
  · intro hnone k
    refine ⟨?_, ?_⟩
    · intro fault hfirst
      exact hnone _ ⟨k, hfirst.violation⟩
    · intro previous found hfirst
      exact hnone _ ⟨k, hfirst.violation⟩
  · rintro hnone cause ⟨k, hfirst⟩
    rcases firstViolation_items_iff.mp hfirst with ⟨fault, hmalformed, -⟩ | ⟨_, _, hdisordered, -⟩
    · exact (hnone k).1 fault hmalformed
    · exact (hnone k).2 _ _ hdisordered

/-- **A table is decided by its first bad row.** Opening it fails for a foreign
engine, and otherwise exactly if there is no such table. The stream of an open
table has an item for each row, whatever became of the rows before it. What a
run makes of the table is settled by the first row that is malformed or out of
order, and there is a unit exactly if no row is either. -/
theorem generate_decided_by_first_bad_row (s : Schema) (table : String) :
    (∀ engine message, s.openColumns engine table = .error (.provider message) ↔
      engine ≠ s.engine ∧
        "schema describes a " ++ s.engine.name ++ " database, not " ++ engine.name = message) ∧
    (∀ engine name, s.openColumns engine table = .error (.tableNotFound name) ↔
      engine = s.engine ∧ s.tables.lookup table = none ∧ table = name) ∧
    ∀ rows, s.tables.lookup table = some rows →
      (∃ items, s.openColumns s.engine table = .ok items ∧ items.length = rows.length ∧
        ∀ k, items[k]? = rows[k]?.map fun row => rowItem k (Row.column row)) ∧
      ∀ (r : Request) (t : Target) (c : Configured),
        Target.resolve r.language r.style = .ok t → t.configure r.options = .ok c →
        r.tableNames = [table] →
        (∀ row message,
          (r.run s.provider).result = .error (.stream table (.scan row message)) ↔
            ∃ k fault, FirstMalformed rows k fault ∧ row = k + 1 ∧
              message = fault.cause.message .positional) ∧
        (∀ previous found,
          (r.run s.provider).result = .error (.stream table (.outOfOrder previous found)) ↔
            ∃ k, FirstDisordered rows k previous found) ∧
        ((∃ unit, (r.run s.provider).result = .ok ⟨t, [unit]⟩) ↔
          ∀ k, (∀ fault, ¬ FirstMalformed rows k fault) ∧
            ∀ previous found, ¬ FirstDisordered rows k previous found) := by
  refine ⟨fun _ _ => openColumns_eq_provider_iff, fun _ _ => openColumns_eq_tableNotFound_iff, ?_⟩
  intro rows hrows
  refine ⟨⟨items rows, openColumns_of_lookup hrows, List.length_mapIdx, getElem?_items rows⟩, ?_⟩
  intro r t c names options tables
  -- a run over one table comes to what its only unit comes to
  have hfailure : ∀ cause, (r.run s.provider).result = .error (.stream table cause) ↔
      s.provider.Fails table cause := by
    intro cause
    rw [Request.run_of_single names options tables, ← s.provider.unit_eq_error_iff c r.affixes]
    cases s.provider.unit c r.affixes table <;> simp [Except.map]
  have hsuccess : (∃ unit, (r.run s.provider).result = .ok ⟨t, [unit]⟩) ↔
      ∀ cause, ¬ s.provider.Fails table cause := by
    rw [Request.run_of_single names options tables, ← s.provider.exists_unit_iff c r.affixes]
    cases s.provider.unit c r.affixes table <;> simp [Except.map]
  refine ⟨?_, ?_, ?_⟩
  · intro row message
    rw [hfailure, fails_scan_iff hrows]
  · intro previous found
    rw [hfailure, fails_outOfOrder_iff hrows]
  · rw [hsuccess, not_fails_iff hrows]

/-- A row that is no table stands before a repeated ordinal in one table and after one in
another. In each, the earlier of the two decides. -/
theorem earlier_fault_decides :
    let text (s : String) : Node := .scalar ⟨0, s.length⟩ (.text s)
    let row (ordinal : Int) (name : String) : Node := .table ⟨0, 0⟩
      [(⟨"ordinal_position", ⟨0, 0⟩, 0⟩, .scalar ⟨0, 0⟩ (.int ordinal)),
       (⟨"column_name", ⟨0, 0⟩, 0⟩, text name), (⟨"data_type", ⟨0, 0⟩, 0⟩, text "int")]
    let s : Schema := ⟨.mySql,
      [("orders", [row 1 "id", text "total", row 1 "sku"]),
       ("users", [row 2 "id", row 2 "name", text "age"])]⟩
    let r (table : String) : Request := ⟨"java", "record", ⟨"", ""⟩, [table], .null⟩
    s.openColumns .postgres "orders" =
        .error (.provider "schema describes a mysql database, not postgres") ∧
      ((r "orders").run s.provider).result = .error (.stream "orders"
        (.scan 2 "invalid type: string \"total\", expected struct ColumnRow")) ∧
      ((r "users").run s.provider).result = .error (.stream "users" (.outOfOrder 2 2)) := by
  intro text row s r
  obtain ⟨hforeign, -, horders⟩ := generate_decided_by_first_bad_row s "orders"
  obtain ⟨-, -, husers⟩ := generate_decided_by_first_bad_row s "users"
  have hnames : Target.resolve "java" "record" = .ok .javaRecord := by decide +kernel
  have hoptions : Target.javaRecord.configure .null =
      .ok (.javaRecord ⟨false, false, false, false⟩) := by decide
  have hmalformed : FirstMalformed [row 1 "id", text "total", row 1 "sku"] 1
      ((text "total").mismatch "struct ColumnRow") :=
    ⟨⟨[1], [.new 1 "id" "int"], .cons rfl .nil, rfl, by decide⟩, text "total", rfl, rfl⟩
  have hdisordered : FirstDisordered [row 2 "id", row 2 "name", text "age"] 1 2 2 :=
    ⟨⟨[2], ⟨[.new 2 "id" "int"], .cons rfl .nil, rfl, by decide⟩, rfl⟩,
      ⟨row 2 "name", .new 2 "name" "int", rfl, rfl, rfl⟩, by decide⟩
  obtain ⟨hscan, -⟩ := (horders _ rfl).2 (r "orders") _ _ hnames hoptions rfl
  obtain ⟨-, houtOfOrder, -⟩ := (husers _ rfl).2 (r "users") _ _ hnames hoptions rfl
  refine ⟨(hforeign .postgres _).mpr ⟨by decide, rfl⟩, ?_, ?_⟩
  · exact (hscan 2 _).mpr ⟨1, _, hmalformed, rfl, by decide +kernel⟩
  · exact (houtOfOrder 2 2).mpr ⟨1, hdisordered⟩

end SchemaCodegen.Schema
