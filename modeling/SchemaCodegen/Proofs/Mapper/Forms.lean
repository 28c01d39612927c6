import SchemaCodegen.Mapper.Statement
import SchemaCodegen.Proofs.Layout.Separators

/-!
# The forms of statements

An insert lists columns and, apart from them, values. An update lists assignments,
and an update and a delete hold the rows to conditions. Here the forms are stated
over what is listed, with the commas where they have to be, and nothing is said of
how a list comes to be printed.
-/

namespace SchemaCodegen.Mapper

/-- A column set to the parameter of a field, or compared to it. -/
def equation (column field : String) : String := column ++ " = #\x7b" ++ field ++ "\x7d"

/-- Every row for which the conditions hold. -/
def conditionLines (conditions : List String) : List String :=
  "WHERE TRUE" :: conditions.map ("    AND " ++ ·)

/-- The conditions that hold the rows to given keys. -/
def keyConditions (keys : List Column) : List String :=
  keys.map fun key => equation key.name (Naming.javaField key.name)

/-- The lines are an insert of the values into the columns. -/
def Inserts (table : String) (columns values lines : List String) : Prop :=
  ∃ listed given, Separated (columns.map ("  " ++ ·)) listed ∧
    Separated (values.map ("  " ++ ·)) given ∧
    lines = ("INSERT INTO " ++ table ++ " (") :: listed ++ ") VALUES (" :: given ++ [")"]

/-- The lines are an update that makes the assignments where the conditions hold. -/
def Updates (table : String) (assigned conditions lines : List String) : Prop :=
  ∃ listed, Separated (assigned.map ("  " ++ ·)) listed ∧
    lines = ("UPDATE " ++ table) :: "SET" :: listed ++ conditionLines conditions

/-- The lines are a delete where the conditions hold. -/
def Deletes (table : String) (conditions lines : List String) : Prop :=
  lines = "DELETE" :: ("FROM " ++ table) :: conditionLines conditions

theorem append_placeholder (column : String) (c : Column) :
    column ++ " = " ++ placeholder c = equation column (Naming.javaField c.name) := by
  have hopen : " = #\x7b" = " = " ++ "#\x7b" := rfl
  simp only [placeholder, parameter, equation, hopen, String.append_assoc]

theorem whereLines_eq (keys : List Column) :
    whereLines keys = conditionLines (keyConditions keys) := by
  rw [whereLines, conditionLines, keyConditions, List.map_map]
  congr 1
  apply List.map_congr_left
  intro key _
  show _ = "    AND " ++ equation _ _
  simp only [← append_placeholder, String.append_assoc]

theorem separated_listLines (items : List String) :
    Separated (items.map ("  " ++ ·)) (listLines items) :=
  separated_withSeparators ("  " ++ ·) items

theorem inserts_sql (table : String) (sets : ColumnSets) :
    Inserts table (insertColumns sets) (insertValues sets) (Statement.insert.sql table sets) :=
  ⟨_, _, separated_listLines _, separated_listLines _, rfl⟩

theorem updates_sql (table : String) (sets : ColumnSets) :
    Updates table (assignments sets) (keyConditions sets.keys)
      (Statement.update.sql table sets) := by
  refine ⟨_, separated_listLines _, ?_⟩
  rw [Statement.sql, whereLines_eq]

theorem deletes_sql (table : String) (sets : ColumnSets) :
    Deletes table (keyConditions sets.keys) (Statement.delete.sql table sets) := by
  rw [Deletes, Statement.sql, whereLines_eq]

end SchemaCodegen.Mapper
