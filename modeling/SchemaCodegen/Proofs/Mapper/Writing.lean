import SchemaCodegen.Proofs.Mapper.Forms
import SchemaCodegen.Proofs.Text.Folding

/-!
# What inserts and updates write

An insert lists columns and, apart from them, values; an update assigns a value
to each of its targets. Both write the columns of the table that are neither
keys nor audit columns, in table order, and three audit columns behind them. An
audit column is told by the start of its name up to the case of ASCII letters,
which is also how the names of a table may differ: a table whose names differ in
this way never makes a statement write a column twice.
-/

namespace SchemaCodegen.Mapper

open Text

/-! ## Audit columns -/

/-- The name starts like those of audit columns, up to the case of ASCII letters. -/
def StartsAsAudit (name : String) : Prop :=
  ∃ lead ∈ ["insert_", "update_", "delete_"], lead.toList <+: asciiFolded name

instance (name : String) : Decidable (StartsAsAudit name) :=
  inferInstanceAs (Decidable (∃ lead ∈ _, _))

/-- No letter outside ASCII makes a name that of an audit column. -/
theorem isAudit_iff (name : String) : isAudit name = true ↔ StartsAsAudit name := by
  have hleads : ∀ lead ∈ auditLeads, AsciiWord lead.toList := by decide +kernel
  rw [isAudit, StartsAsAudit, List.any_eq_true]
  refine exists_congr fun lead => and_congr_right fun hlead => ?_
  rw [List.isPrefixOf_iff_prefix, lower, String.toList_ofList]
  exact (hleads lead hlead).prefix_lowerChars_iff [] name.toList

/-- The columns of a table that its statements write from the parameter object. -/
def writtenColumns (columns : List Column) : List Column :=
  columns.filter fun c => c.isKey = false ∧ ¬ StartsAsAudit c.name

theorem insertable_eq_writtenColumns (columns : List Column) :
    (ColumnSets.of columns).insertable = writtenColumns columns := by
  apply List.filter_congr
  intro c _
  simp only [← isAudit_iff, Bool.not_eq_true, Bool.decide_and, Bool.decide_eq_false]

/-! ## Names and values -/

/-- The columns that a statement writes, and the values that it writes into them. -/
structure Writing where
  names : List String
  values : List String

namespace Writing

def assignments (w : Writing) : List String :=
  List.zipWith (fun name value => name ++ " = " ++ value) w.names w.values

/-- The statement writes some columns of the table from their parameters, and audit columns with
their own values behind them. -/
structure Writes (w : Writing) (written : List Column) (audit : List (String × String)) :
    Prop where
  names_eq : w.names = written.map (·.name) ++ audit.map (·.1)
  aligned : w.values.length = w.names.length
  nonempty : w.names ≠ []
  value_of_column : ∀ (i : Nat) (c : Column), written[i]? = some c →
    w.values[i]? = some ("#\x7b" ++ Naming.javaField c.name ++ "\x7d")
  value_of_audit : ∀ (i : Nat) (v : String × String), audit[i]? = some v →
    w.values[written.length + i]? = some v.2

/-- The columns that are written from parameters, and the audit columns behind them. -/
def withAudit (written : List Column) (audit : List (String × String)) : Writing where
  names := written.map (·.name) ++ audit.map (·.1)
  values := written.map placeholder ++ audit.map (·.2)

theorem writes_withAudit (written : List Column) {audit : List (String × String)}
    (haudit : audit ≠ []) : (withAudit written audit).Writes written audit where
  names_eq := rfl
  aligned := by simp [withAudit]
  nonempty := by simp [withAudit, haudit]
  value_of_column i c hc := by
    obtain ⟨hi, -⟩ := List.getElem?_eq_some_iff.mp hc
    have hleft : i < (written.map placeholder).length := by rwa [List.length_map]
    rw [withAudit, List.getElem?_append_left hleft, List.getElem?_map, hc]
    rfl
  value_of_audit i v hv := by
    have hright : (written.map placeholder).length ≤ written.length + i := by
      rw [List.length_map]
      exact Nat.le_add_right _ _
    rw [withAudit, List.getElem?_append_right hright, List.length_map, Nat.add_sub_cancel_left,
      List.getElem?_map, hv]
    rfl

end Writing

/-- The two lists of an insert are what it writes. -/
theorem inserts_withAudit (table : String) (columns : List Column) :
    let w := Writing.withAudit (writtenColumns columns) insertAudit
    Inserts table w.names w.values (Statement.insert.sql table (ColumnSets.of columns)) := by
  have hlists := inserts_sql table (ColumnSets.of columns)
  rwa [insertColumns, insertValues, insertable_eq_writtenColumns] at hlists

/-- The assignments of an update are what it writes, name by name. -/
theorem updates_withAudit (table : String) (columns : List Column) :
    Updates table (Writing.withAudit (writtenColumns columns) updateAudit).assignments
      (keyConditions (columns.filter (·.isKey)))
      (Statement.update.sql table (ColumnSets.of columns)) := by
  have hlengths : ((writtenColumns columns).map (·.name)).length =
      ((writtenColumns columns).map placeholder).length := by
    simp
  have hlist := updates_sql table (ColumnSets.of columns)
  rw [assignments, insertable_eq_writtenColumns] at hlist
  rw [Writing.assignments, Writing.withAudit, List.zipWith_append hlengths, List.zipWith_map,
    List.zipWith_self]
  exact hlist

/-! ## No column is written twice -/

/-- Columns that do not start like audit columns are told from those that do. -/
theorem nodup_names_withAudit {columns : List Column} {audit : List (String × String)}
    (hcolumns : (columns.map fun c => asciiFolded c.name).Nodup)
    (haudit : ∀ v ∈ audit, StartsAsAudit v.1)
    (hdistinct : (audit.map fun v => asciiFolded v.1).Nodup) :
    ((Writing.withAudit (writtenColumns columns) audit).names.map asciiFolded).Nodup := by
  have hwritten : ((writtenColumns columns).map fun c => asciiFolded c.name).Nodup :=
    hcolumns.sublist (List.filter_sublist.map _)
  simp only [Writing.withAudit, List.map_append, List.map_map, List.nodup_append]
  refine ⟨hwritten, hdistinct, ?_⟩
  intro folded hleft folded' hright heq
  obtain ⟨c, hc, rfl⟩ := List.mem_map.mp hleft
  obtain ⟨v, hv, rfl⟩ := List.mem_map.mp hright
  obtain ⟨-, hplain⟩ := of_decide_eq_true (List.mem_filter.mp hc).2
  apply hplain
  have hsame : asciiFolded c.name = asciiFolded v.1 := heq
  rw [StartsAsAudit, hsame]
  exact haudit v hv

/-- **Inserts and updates write each column once.** Both write the columns of the table that are
neither keys nor audit columns, in table order, from their parameters, and then their own audit
columns. If the names of the table differ up to the case of ASCII letters, so do the names in a
statement. -/
theorem inserts_and_updates_write (table : String) (columns : List Column) :
    ∃ insert update : Writing,
      Inserts table insert.names insert.values
        (Statement.insert.sql table (ColumnSets.of columns)) ∧
      Updates table update.assignments (keyConditions (columns.filter (·.isKey)))
        (Statement.update.sql table (ColumnSets.of columns)) ∧
      insert.Writes (writtenColumns columns) insertAudit ∧
      update.Writes (writtenColumns columns) updateAudit ∧
      ((columns.map fun c => asciiFolded c.name).Nodup →
        (insert.names.map asciiFolded).Nodup ∧ (update.names.map asciiFolded).Nodup) := by
  refine ⟨_, _, inserts_withAudit table columns, updates_withAudit table columns,
    Writing.writes_withAudit _ (by decide), Writing.writes_withAudit _ (by decide), ?_⟩
  intro hcolumns
  constructor
  · exact nodup_names_withAudit hcolumns (by decide +kernel) (by decide +kernel)
  · exact nodup_names_withAudit hcolumns (by decide +kernel) (by decide +kernel)

/-- A table with a key, a keyword among its names, and an audit column in capitals. -/
def ledgerColumns : List Column :=
  [(Column.new 1 "id" "bigint").asKey, Column.new 2 "class" "varchar(20)",
   Column.new 3 "INSERT_DTM" "datetime", Column.new 4 "Insertion" "date"]

theorem ledger_written_once :
    (ledgerColumns.map fun c => asciiFolded c.name).Nodup ∧
    ∃ insert update : Writing,
      Inserts "ledger" insert.names insert.values
        (Statement.insert.sql "ledger" (ColumnSets.of ledgerColumns)) ∧
      Updates "ledger" update.assignments ["id = #\x7bid\x7d"]
        (Statement.update.sql "ledger" (ColumnSets.of ledgerColumns)) ∧
      insert.names = ["class", "Insertion", "insert_ip", "insert_user_id", "insert_dtm"] ∧
      insert.values[0]? = some "#\x7bclass_\x7d" ∧
      update.names = ["class", "Insertion", "update_ip", "update_user_id", "update_dtm"] ∧
      (insert.names.map asciiFolded).Nodup ∧ (update.names.map asciiFolded).Nodup := by
  have hnames : (ledgerColumns.map fun c => asciiFolded c.name).Nodup := by decide +kernel
  have hkeys : keyConditions (ledgerColumns.filter (·.isKey)) = ["id = #\x7bid\x7d"] := by
    decide +kernel
  obtain ⟨insert, update, hinsert, hupdate, hins, hup, hnodup⟩ :=
    inserts_and_updates_write "ledger" ledgerColumns
  rw [hkeys] at hupdate
  refine ⟨hnames, insert, update, hinsert, hupdate, ?_, ?_, ?_, hnodup hnames⟩
  · rw [hins.names_eq]
    decide +kernel
  · rw [hins.value_of_column 0 (Column.new 2 "class" "varchar(20)") (by decide +kernel)]
    decide +kernel
  · rw [hup.names_eq]
    decide +kernel

end SchemaCodegen.Mapper
