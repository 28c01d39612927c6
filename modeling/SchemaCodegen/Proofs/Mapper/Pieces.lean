import SchemaCodegen.Mapper.Statement
import SchemaCodegen.Proofs.Layout.Rendering

/-!
# The pieces of a statement

A line of a statement is put together from fixed texts, the names of the table
and of its columns, and parameters. A property of texts that survives putting
together therefore holds of every line if it holds of these pieces. The first
and the last lines of an insert open and close parentheses; what they need is
asked for apart.
-/

namespace SchemaCodegen.Mapper

def fixedTexts : List String :=
  ["SELECT", "  *", "FROM ", "UPDATE ", "SET", "DELETE", "WHERE TRUE", "    AND ", " = ", "  ", ",",
   ""]

def insertTexts : List String := ["INSERT INTO ", " (", ") VALUES (", ")"]

/-- A property that holds of the pieces of a table's statements, and of what is put together
from texts that have it. -/
structure Composes (Q : String → Prop) (table : String) (columns : List Column) : Prop where
  append : ∀ {s t : String}, Q s → Q t → Q (s ++ t)
  fixed : ∀ s ∈ fixedTexts, Q s
  table : Q table
  name : ∀ c ∈ columns, Q c.name
  value : ∀ c ∈ columns, Q (placeholder c)
  audit : ∀ v ∈ insertAudit ++ updateAudit, Q v.1 ∧ Q v.2

/-- What a statement writes has the property for columns and for audit columns. -/
theorem forall_written {Q : String → Prop} {columns : List Column} {text : Column → String}
    {audit : List String} (htext : ∀ c ∈ columns, Q (text c)) (haudit : ∀ s ∈ audit, Q s) :
    ∀ s ∈ (ColumnSets.of columns).insertable.map text ++ audit, Q s := by
  intro s hs
  rcases List.mem_append.mp hs with hs | hs
  · obtain ⟨c, hc, rfl⟩ := List.mem_map.mp hs
    exact htext c (List.mem_filter.mp hc).1
  · exact haudit s hs

namespace Composes

variable {Q : String → Prop} {table : String} {columns : List Column}
  (h : Composes Q table columns)
include h

/-- The lines of a list have the property if its items do. -/
theorem listLines {items : List String} (hitems : ∀ item ∈ items, Q item) :
    ∀ line ∈ listLines items, Q line := by
  intro line hline
  obtain ⟨⟨item, separator⟩, hmem, rfl⟩ := List.mem_map.mp hline
  obtain ⟨hitem, hseparator⟩ := mem_withSeparators hmem
  have hindented : Q ("  " ++ item) := h.append (h.fixed "  " (by decide)) (hitems item hitem)
  apply h.append hindented
  rcases hseparator with heq | heq
  · rw [heq]
    exact h.fixed "," (by decide)
  · rw [heq]
    exact h.fixed "" (by decide)

theorem insertColumns : ∀ s ∈ insertColumns (ColumnSets.of columns), Q s := by
  apply forall_written h.name
  intro s hs
  obtain ⟨v, hv, rfl⟩ := List.mem_map.mp hs
  exact (h.audit v (List.mem_append_left _ hv)).1

theorem insertValues : ∀ s ∈ insertValues (ColumnSets.of columns), Q s := by
  apply forall_written h.value
  intro s hs
  obtain ⟨v, hv, rfl⟩ := List.mem_map.mp hs
  exact (h.audit v (List.mem_append_left _ hv)).2

theorem assignments : ∀ s ∈ assignments (ColumnSets.of columns), Q s := by
  have hequals : Q " = " := h.fixed " = " (by decide)
  apply forall_written
  · intro c hc
    exact h.append (h.append (h.name c hc) hequals) (h.value c hc)
  · intro s hs
    obtain ⟨v, hv, rfl⟩ := List.mem_map.mp hs
    obtain ⟨hcolumn, hvalue⟩ := h.audit v (List.mem_append_right _ hv)
    exact h.append (h.append hcolumn hequals) hvalue

theorem whereLines : ∀ line ∈ whereLines (ColumnSets.of columns).keys, Q line := by
  intro line hline
  rcases List.mem_cons.mp hline with rfl | hline
  · exact h.fixed "WHERE TRUE" (by decide)
  · obtain ⟨key, hkey, rfl⟩ := List.mem_map.mp hline
    have hcolumn : key ∈ columns := (List.mem_filter.mp hkey).1
    have hand : Q ("    AND " ++ key.name) :=
      h.append (h.fixed "    AND " (by decide)) (h.name key hcolumn)
    exact h.append (h.append hand (h.fixed " = " (by decide))) (h.value key hcolumn)

/-! ## Statements -/

theorem select : ∀ line ∈ Statement.select.sql table (ColumnSets.of columns), Q line := by
  have hlist : ∀ line ∈ (if columns.isEmpty then ["  *"]
      else Mapper.listLines (columns.map (·.name))), Q line := by
    split
    · intro line hline
      rw [List.mem_singleton.mp hline]
      exact h.fixed "  *" (by decide)
    · apply h.listLines
      intro name hname
      obtain ⟨c, hc, rfl⟩ := List.mem_map.mp hname
      exact h.name c hc
  intro line hline
  rw [Statement.sql, List.mem_append, List.mem_cons, List.mem_singleton] at hline
  rcases hline with (rfl | hline) | rfl
  · exact h.fixed "SELECT" (by decide)
  · exact hlist line hline
  · exact h.append (h.fixed "FROM " (by decide)) h.table

theorem insert (hinsert : ∀ s ∈ insertTexts, Q s) :
    ∀ line ∈ Statement.insert.sql table (ColumnSets.of columns), Q line := by
  have hinto : Q ("INSERT INTO " ++ table ++ " (") :=
    h.append (h.append (hinsert _ (by decide)) h.table) (hinsert _ (by decide))
  intro line hline
  rw [Statement.sql, List.mem_append, List.mem_append, List.mem_cons, List.mem_cons,
    List.mem_singleton] at hline
  rcases hline with ((rfl | hline) | (rfl | hline)) | rfl
  · exact hinto
  · exact h.listLines h.insertColumns line hline
  · exact hinsert ") VALUES (" (by decide)
  · exact h.listLines h.insertValues line hline
  · exact hinsert ")" (by decide)

theorem update : ∀ line ∈ Statement.update.sql table (ColumnSets.of columns), Q line := by
  intro line hline
  simp only [Statement.sql, List.mem_append, List.mem_cons] at hline
  rcases hline with (rfl | rfl | hline) | hline
  · exact h.append (h.fixed "UPDATE " (by decide)) h.table
  · exact h.fixed "SET" (by decide)
  · exact h.listLines h.assignments line hline
  · exact h.whereLines line hline

theorem delete : ∀ line ∈ Statement.delete.sql table (ColumnSets.of columns), Q line := by
  intro line hline
  simp only [Statement.sql, List.mem_cons] at hline
  rcases hline with rfl | rfl | hline
  · exact h.fixed "DELETE" (by decide)
  · exact h.append (h.fixed "FROM " (by decide)) h.table
  · exact h.whereLines line hline

end Composes

end SchemaCodegen.Mapper
