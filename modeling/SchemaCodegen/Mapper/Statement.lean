import SchemaCodegen.Column.Basic
import SchemaCodegen.Layout.Fragment
import SchemaCodegen.Naming.Member

/-!
# Mapper statements

The four statements of a table's mapper, as lines of SQL with parameters. Every column is
selected. Keys are neither inserted nor updated: they select the rows of an update or a delete.
Audit columns, whose names start with `insert_`, `update_` or `delete_` in any letter case, are
never taken from the parameter object; statements write three of them from fixed values.
-/

namespace SchemaCodegen.Mapper

def auditLeads : List String := ["insert_", "update_", "delete_"]

def isAudit (name : String) : Bool :=
  auditLeads.any fun lead => lead.toList.isPrefixOf (Text.lower name).toList

/-- The columns of a table by their part in the statements. -/
structure ColumnSets where
  /-- Every column. -/
  selectable : List Column
  /-- The columns that are neither keys nor audit columns. -/
  insertable : List Column
  /-- The columns of the primary key. -/
  keys : List Column
deriving DecidableEq, Repr

/-- The sets of a table's columns, each in table order. -/
def ColumnSets.of (columns : List Column) : ColumnSets where
  selectable := columns
  insertable := columns.filter fun c => !c.isKey && !isAudit c.name
  keys := columns.filter (·.isKey)

def parameter (field : String) : String := "#\x7b" ++ field ++ "\x7d"

/-- The parameter that carries the value of a column. -/
def placeholder (c : Column) : String := parameter (Naming.javaField c.name)

/-- The audit columns that an insert writes, with their values. -/
def insertAudit : List (String × String) :=
  [("insert_ip", parameter "insertIp"), ("insert_user_id", parameter "insertUserId"),
   -- the time is the database's own
   ("insert_dtm", "CURRENT_TIMESTAMP(6)")]

def updateAudit : List (String × String) :=
  [("update_ip", parameter "updateIp"), ("update_user_id", parameter "updateUserId"),
   ("update_dtm", "CURRENT_TIMESTAMP(6)")]

def insertColumns (sets : ColumnSets) : List String :=
  sets.insertable.map (·.name) ++ insertAudit.map (·.1)

def insertValues (sets : ColumnSets) : List String :=
  sets.insertable.map placeholder ++ insertAudit.map (·.2)

/-- What an update sets. -/
def assignments (sets : ColumnSets) : List String :=
  sets.insertable.map (fun c => c.name ++ " = " ++ placeholder c) ++
    updateAudit.map fun v => v.1 ++ " = " ++ v.2

/-- A line per item, each but the last with a comma. -/
def listLines (items : List String) : List String :=
  (withSeparators "," items).map fun item => "  " ++ item.1 ++ item.2

/-- The condition that selects the rows with given key values. -/
def whereLines (keys : List Column) : List String :=
  "WHERE TRUE" :: keys.map fun key => "    AND " ++ key.name ++ " = " ++ placeholder key

inductive Statement where
  | select
  | insert
  | update
  | delete
deriving DecidableEq, Repr

namespace Statement

/-- The statements in the order of a mapper. -/
def all : List Statement := [select, insert, update, delete]

def verb : Statement → String
  | select => "select"
  | insert => "insert"
  | update => "update"
  | delete => "delete"

def id (s : Statement) (entity : String) : String := s.verb ++ entity

/-- The lines of the statement, indented relative to its verb. -/
def sql (table : String) (sets : ColumnSets) : Statement → List String
  | select =>
    "SELECT" ::
      (if sets.selectable.isEmpty then ["  *"] else listLines (sets.selectable.map (·.name))) ++
      ["FROM " ++ table]
  | insert =>
    ("INSERT INTO " ++ table ++ " (") :: listLines (insertColumns sets) ++
      ") VALUES (" :: listLines (insertValues sets) ++ [")"]
  | update =>
    ("UPDATE " ++ table) :: "SET" :: listLines (assignments sets) ++ whereLines sets.keys
  | delete => "DELETE" :: ("FROM " ++ table) :: whereLines sets.keys

end Statement

end SchemaCodegen.Mapper
