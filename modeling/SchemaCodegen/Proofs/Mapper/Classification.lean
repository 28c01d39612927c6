import SchemaCodegen.Proofs.Column.Violation
import SchemaCodegen.Proofs.Mapper.Writing

/-!
# The classes of a table's columns

Two filters divide the columns of a table in three: the keys, the columns that
statements write from their parameters, and the audit columns that are no keys. No
column is lost between the filters and none is taken twice. Statements follow the
classes. A select shows every column; an update and a delete hold the rows to the
keys, all of them and nothing else, as a key that is left out would change rows that
were not meant.
-/

namespace SchemaCodegen.Mapper

open Text

/-! ## Classes -/

/-- The audit columns that are no keys. -/
def auditOnly (columns : List Column) : List Column :=
  columns.filter fun c => !c.isKey && isAudit c.name

/-- Columns in three classes, each in the order of the table. -/
structure Classified (columns keys insertable audit : List Column) : Prop where
  inOrder : keys.Sublist columns ∧ insertable.Sublist columns ∧ audit.Sublist columns
  /-- Every column is in a class as often as it is in the table. -/
  once : (keys ++ (insertable ++ audit)).Perm columns
  ofKeys : ∀ c ∈ keys, c.isKey = true
  ofInsertable : ∀ c ∈ insertable, c.isKey = false ∧ ¬ StartsAsAudit c.name
  ofAudit : ∀ c ∈ audit, c.isKey = false ∧ StartsAsAudit c.name

/-- The column is in one of the classes and in no other. -/
def IsInOne (c : Column) (keys insertable audit : List Column) : Prop :=
  c ∈ keys ∧ c ∉ insertable ∧ c ∉ audit ∨ c ∉ keys ∧ c ∈ insertable ∧ c ∉ audit ∨
    c ∉ keys ∧ c ∉ insertable ∧ c ∈ audit

theorem Classified.isInOne {columns keys insertable audit : List Column}
    (h : Classified columns keys insertable audit) {c : Column} (hc : c ∈ columns) :
    IsInOne c keys insertable audit := by
  have hkey : c ∈ keys → c ∉ insertable ∧ c ∉ audit := by
    intro hmem
    have hflag := h.ofKeys c hmem
    refine ⟨fun hins => ?_, fun haud => ?_⟩
    · rw [(h.ofInsertable c hins).1] at hflag
      cases hflag
    · rw [(h.ofAudit c haud).1] at hflag
      cases hflag
  have hins : c ∈ insertable → c ∉ audit := fun hmem haud =>
    (h.ofInsertable c hmem).2 (h.ofAudit c haud).2
  have hsome : c ∈ keys ∨ c ∈ insertable ∨ c ∈ audit := by
    simpa using h.once.mem_iff.mpr hc
  unfold IsInOne
  tauto

theorem classified_of (columns : List Column) :
    Classified columns (ColumnSets.of columns).keys (ColumnSets.of columns).insertable
      (auditOnly columns) where
  inOrder := ⟨List.filter_sublist, List.filter_sublist, List.filter_sublist⟩
  once := by
    -- the second filter divides what the first one leaves
    have hrest : ((ColumnSets.of columns).insertable ++ auditOnly columns).Perm
        (columns.filter fun c => !c.isKey) := by
      have hdivided := List.filter_append_perm (fun c : Column => !isAudit c.name)
        (columns.filter fun c => !c.isKey)
      simpa only [ColumnSets.of, auditOnly, List.filter_filter, Bool.not_not, Bool.and_comm]
        using hdivided
    exact (hrest.append_left _).trans (List.filter_append_perm Column.isKey columns)
  ofKeys := by
    intro c hc
    exact (List.mem_filter.mp hc).2
  ofInsertable := by
    intro c hc
    have hkept := (List.mem_filter.mp hc).2
    rw [← isAudit_iff]
    simpa using hkept
  ofAudit := by
    intro c hc
    have hkept := (List.mem_filter.mp hc).2
    rw [← isAudit_iff]
    simpa using hkept

/-! ## Conditions -/

/-- The lines end with a condition on the keys: a line for each, in order. -/
def EndsWithKeys (lines : List String) (keys : List Column) : Prop :=
  ∃ front, "WHERE TRUE" ∉ front ∧ lines = front ++ conditionLines (keyConditions keys)

theorem where_not_mem_listLines (items : List String) : "WHERE TRUE" ∉ listLines items := by
  rw [listLines, List.mem_map]
  rintro ⟨item, -, heq⟩
  have hfirst := congrArg (fun s : String => s.toList.head?) heq
  simp at hfirst

theorem update_endsWithKeys (table : String) (sets : ColumnSets) :
    EndsWithKeys (Statement.update.sql table sets) sets.keys := by
  refine ⟨("UPDATE " ++ table) :: "SET" :: listLines (assignments sets), ?_, ?_⟩
  · simp [where_not_mem_listLines, ← String.toList_inj]
  · rw [Statement.sql, whereLines_eq]

theorem delete_endsWithKeys (table : String) (sets : ColumnSets) :
    EndsWithKeys (Statement.delete.sql table sets) sets.keys := by
  refine ⟨["DELETE", "FROM " ++ table], ?_, ?_⟩
  · simp [← String.toList_inj]
  · rw [Statement.sql, whereLines_eq]
    rfl

/-- **Every column is in one class, and the statements follow the classes.** The classes keep the
order of the table. A select shows each column once, or a star if there is none; an update and a
delete end with the condition on the keys, which stand in the order of their ordinals. What an
audit column is is decided by the start of its name, up to the case of ASCII letters. -/
theorem statements_follow_classes (table : String) (columns : List Column) :
    Classified columns (ColumnSets.of columns).keys (ColumnSets.of columns).insertable
      (auditOnly columns) ∧
    (∀ c ∈ columns, IsInOne c (ColumnSets.of columns).keys (ColumnSets.of columns).insertable
      (auditOnly columns)) ∧
    (∃ shown, Statement.select.sql table (ColumnSets.of columns) =
        "SELECT" :: shown ++ ["FROM " ++ table] ∧
      (columns = [] → shown = ["  *"]) ∧
      (columns ≠ [] → Separated (columns.map fun c => "  " ++ c.name) shown)) ∧
    (∀ s ∈ [Statement.update, .delete],
      EndsWithKeys (s.sql table (ColumnSets.of columns)) (ColumnSets.of columns).keys) ∧
    (Ascending columns →
      (ColumnSets.of columns).keys.Pairwise fun k k' => k.ordinal < k'.ordinal) ∧
    ∀ name, isAudit name = true ↔ StartsAsAudit name := by
  refine ⟨classified_of columns, ?_, ?_, ?_, ?_, isAudit_iff⟩
  · intro c hc
    exact (classified_of columns).isInOne hc
  · refine ⟨if columns.isEmpty then ["  *"] else listLines (columns.map (·.name)), rfl, ?_, ?_⟩
    · rintro rfl
      rfl
    · intro hne
      rw [if_neg (by simpa using hne)]
      have hlist := separated_listLines (columns.map (·.name))
      rwa [List.map_map] at hlist
  · intro s hs
    simp only [List.mem_cons, List.not_mem_nil, or_false] at hs
    rcases hs with rfl | rfl
    · exact update_endsWithKeys table _
    · exact delete_endsWithKeys table _
  · intro hascending
    have hordinals := (List.isChain_iff_pairwise.mp hascending).of_cons
    exact (List.pairwise_map.mp hordinals).sublist List.filter_sublist

/-- A table with two keys, one of which is named like an audit column, an audit column in capitals
and a column that only looks like one. -/
def ratingColumns : List Column :=
  [(Column.new 1 "tenant" "int").asKey, Column.new 2 "INSERT_DTM" "datetime",
   (Column.new 5 "Update_no" "int").asKey, Column.new 6 "insertion" "date"]

theorem rating_follows_classes :
    Ascending ratingColumns ∧
    (ColumnSets.of ratingColumns).keys.map (·.name) = ["tenant", "Update_no"] ∧
    (ColumnSets.of ratingColumns).insertable.map (·.name) = ["insertion"] ∧
    (auditOnly ratingColumns).map (·.name) = ["INSERT_DTM"] ∧
    (ColumnSets.of ratingColumns).keys.Pairwise (fun k k' => k.ordinal < k'.ordinal) ∧
    ∃ front, "WHERE TRUE" ∉ front ∧
      Statement.delete.sql "rating" (ColumnSets.of ratingColumns) =
        front ++ ["WHERE TRUE", "    AND tenant = #\x7btenant\x7d",
          "    AND Update_no = #\x7bupdateNo\x7d"] := by
  have hascending : Ascending ratingColumns := by decide
  have hkeys : (ColumnSets.of ratingColumns).keys =
      [(Column.new 1 "tenant" "int").asKey, (Column.new 5 "Update_no" "int").asKey] := by
    decide +kernel
  have hfields : Naming.javaField "tenant" = "tenant" ∧
      Naming.javaField "Update_no" = "updateNo" := by
    decide +kernel
  obtain ⟨-, -, -, hends, hordinals, -⟩ := statements_follow_classes "rating" ratingColumns
  obtain ⟨front, hfront, hlines⟩ := hends .delete (by simp)
  refine ⟨hascending, ?_, ?_, ?_, hordinals hascending, front, hfront, ?_⟩
  · rw [hkeys]
    rfl
  · decide +kernel
  · decide +kernel
  · rw [hlines, hkeys]
    simp only [keyConditions, conditionLines, List.map_cons, List.map_nil, Column.asKey,
      Column.new, hfields]
    rfl

end SchemaCodegen.Mapper
