import Mathlib.Data.List.Nodup
import SchemaCodegen.Proofs.Mapper.Writing

/-!
# Keys that are written

Keys are not among the columns that a statement writes from parameters, but the
audit columns behind these are always the same three, whatever the keys are
called. So a statement writes the name of a key in two cases only: the key is
named like one of the audit columns of the statement, or the table has another
column of that name up to letter case. Where names differ up to letter case the
first case is left, and an update assigns none of the columns that it filters by
unless one of them has the name of an audit column.
-/

namespace SchemaCodegen.Mapper

open Text

/-- Whether one of the columns that are written has the name, in any letter case. -/
def Writing.Names (w : Writing) (name : String) : Prop :=
  ∃ written ∈ w.names, lower written = lower name

def insertWriting (columns : List Column) : Writing :=
  .withAudit (writtenColumns columns) insertAudit

def updateWriting (columns : List Column) : Writing :=
  .withAudit (writtenColumns columns) updateAudit

/-- Whether a column that is neither a key nor an audit column has the name of the key, in any
letter case. -/
def HasNamesake (columns : List Column) (key : Column) : Prop :=
  ∃ c ∈ writtenColumns columns, lower c.name = lower key.name

/-- Whether the key is named like one of the audit columns, in any letter case. -/
def NamedLikeAudit (audit : List (String × String)) (key : Column) : Prop :=
  ∃ v ∈ audit, lower key.name = v.1

variable {columns : List Column} {audit : List (String × String)} {key : Column}

theorem names_withAudit_iff (haudit : ∀ v ∈ audit, lower v.1 = v.1) :
    (Writing.withAudit (writtenColumns columns) audit).Names key.name ↔
      HasNamesake columns key ∨ NamedLikeAudit audit key := by
  rw [Writing.Names, Writing.withAudit]
  constructor
  · rintro ⟨name, hname, hsame⟩
    rcases List.mem_append.mp hname with hleft | hright
    · obtain ⟨c, hc, rfl⟩ := List.mem_map.mp hleft
      exact .inl ⟨c, hc, hsame⟩
    · obtain ⟨v, hv, rfl⟩ := List.mem_map.mp hright
      exact .inr ⟨v, hv, hsame.symm.trans (haudit v hv)⟩
  · rintro (⟨c, hc, hsame⟩ | ⟨v, hv, hsame⟩)
    · exact ⟨c.name, List.mem_append_left _ (List.mem_map_of_mem hc), hsame⟩
    · refine ⟨v.1, List.mem_append_right _ (List.mem_map_of_mem hv), ?_⟩
      rw [haudit v hv, hsame]

/-- No key has a namesake in a table whose names differ up to letter case. -/
theorem not_hasNamesake (hdistinct : (columns.map fun c => lower c.name).Nodup)
    (hkey : key ∈ columns) (hisKey : key.isKey = true) : ¬ HasNamesake columns key := by
  rintro ⟨c, hc, hsame⟩
  obtain ⟨hmem, hwritten⟩ := List.mem_filter.mp hc
  obtain ⟨hplain, -⟩ := of_decide_eq_true hwritten
  have heq : c = key := List.inj_on_of_nodup_map hdistinct hmem hkey hsame
  rw [heq, hisKey] at hplain
  cases hplain

theorem lower_insertAudit : ∀ v ∈ insertAudit, lower v.1 = v.1 := by decide

theorem lower_updateAudit : ∀ v ∈ updateAudit, lower v.1 = v.1 := by decide

/-- **Statements write a key only under the name of an audit column or of another column.** In a
table whose names differ up to letter case, an insert or update writes a key exactly if the key is
named like one of the audit columns of that statement. -/
theorem key_written_iff (table : String) (columns : List Column) :
    Inserts table (insertWriting columns).names (insertWriting columns).values
      (Statement.insert.sql table (ColumnSets.of columns)) ∧
    Updates table (updateWriting columns).assignments
      (keyConditions (columns.filter (·.isKey)))
      (Statement.update.sql table (ColumnSets.of columns)) ∧
    (∀ key ∈ columns, key.isKey = true →
      ((insertWriting columns).Names key.name ↔
        HasNamesake columns key ∨ NamedLikeAudit insertAudit key) ∧
      ((updateWriting columns).Names key.name ↔
        HasNamesake columns key ∨ NamedLikeAudit updateAudit key)) ∧
    ((columns.map fun c => lower c.name).Nodup →
      ∀ key ∈ columns, key.isKey = true →
        ((insertWriting columns).Names key.name ↔ NamedLikeAudit insertAudit key) ∧
        ((updateWriting columns).Names key.name ↔ NamedLikeAudit updateAudit key)) := by
  refine ⟨inserts_withAudit table columns, updates_withAudit table columns, ?_, ?_⟩
  · intro key _ _
    exact ⟨names_withAudit_iff lower_insertAudit, names_withAudit_iff lower_updateAudit⟩
  · intro hdistinct key hkey hisKey
    have hnone := not_hasNamesake hdistinct hkey hisKey
    constructor
    · exact (names_withAudit_iff lower_insertAudit).trans (or_iff_right hnone)
    · exact (names_withAudit_iff lower_updateAudit).trans (or_iff_right hnone)

/-- A table with an audit column in capitals among its keys. -/
def sessionColumns : List Column :=
  [(Column.new 1 "id" "int").asKey, (Column.new 2 "UPDATE_IP" "varchar(45)").asKey,
   Column.new 3 "state" "text"]

theorem session_address_written :
    (sessionColumns.map fun c => lower c.name).Nodup ∧
    (updateWriting sessionColumns).Names "UPDATE_IP" ∧
    ¬ (insertWriting sessionColumns).Names "UPDATE_IP" ∧
    ¬ (updateWriting sessionColumns).Names "id" := by
  have hdistinct : (sessionColumns.map fun c => lower c.name).Nodup := by decide +kernel
  obtain ⟨-, -, -, hkeys⟩ := key_written_iff "sessions" sessionColumns
  obtain ⟨-, hid⟩ := hkeys hdistinct (Column.new 1 "id" "int").asKey (by decide) rfl
  obtain ⟨hinsert, hupdate⟩ :=
    hkeys hdistinct (Column.new 2 "UPDATE_IP" "varchar(45)").asKey (by decide) rfl
  have hnamed : NamedLikeAudit updateAudit (Column.new 2 "UPDATE_IP" "varchar(45)").asKey :=
    ⟨("update_ip", parameter "updateIp"), by decide, by decide +kernel⟩
  refine ⟨hdistinct, hupdate.mpr hnamed, ?_, ?_⟩
  · intro hnames
    obtain ⟨v, hv, hsame⟩ := hinsert.mp hnames
    have hnone : ∀ v ∈ insertAudit, lower "UPDATE_IP" ≠ v.1 := by decide +kernel
    exact hnone v hv hsame
  · intro hnames
    obtain ⟨v, hv, hsame⟩ := hid.mp hnames
    have hnone : ∀ v ∈ updateAudit, lower "id" ≠ v.1 := by decide +kernel
    exact hnone v hv hsame

/-- A table whose keys are an audit column of updates, and a column with a namesake in capitals. -/
def visitColumns : List Column :=
  [(Column.new 1 "update_ip" "varchar(45)").asKey, (Column.new 2 "id" "int").asKey,
   Column.new 3 "ID" "text"]

/-- Keys may be written: this update assigns both columns that it filters by. -/
theorem keys_assigned_and_filtered :
    Statement.update.sql "visits" (ColumnSets.of visitColumns) =
      ["UPDATE visits", "SET", "  ID = #\x7bid\x7d,", "  update_ip = #\x7bupdateIp\x7d,",
       "  update_user_id = #\x7bupdateUserId\x7d,", "  update_dtm = CURRENT_TIMESTAMP(6)",
       "WHERE TRUE", "    AND update_ip = #\x7bupdateIp\x7d", "    AND id = #\x7bid\x7d"] ∧
    (updateWriting visitColumns).Names "update_ip" ∧ (updateWriting visitColumns).Names "id" ∧
    ¬ ∀ (columns : List Column), ∀ key ∈ columns, key.isKey = true →
      ¬ (insertWriting columns).Names key.name ∧ ¬ (updateWriting columns).Names key.name := by
  have haddress : (updateWriting visitColumns).Names "update_ip" :=
    ⟨"update_ip", by decide +kernel, rfl⟩
  have hid : (updateWriting visitColumns).Names "id" :=
    ⟨"ID", by decide +kernel, by decide +kernel⟩
  refine ⟨by decide +kernel, haddress, hid, ?_⟩
  intro hclaim
  obtain ⟨-, hnone⟩ :=
    hclaim visitColumns (Column.new 1 "update_ip" "varchar(45)").asKey (by decide) rfl
  exact hnone haddress

end SchemaCodegen.Mapper
