import SchemaCodegen.Column.Stream

/-!
# Sample tables

A table of each engine, for trying emitters out.
-/

namespace SchemaCodegen.Samples

/-- A MySQL table with a key, a nullable column and a length. -/
def users : List Column :=
  [((Column.new 1 "id" "int").asKey).withComment "user id",
   (Column.new 2 "created_at" "datetime").asNullable,
   (Column.new 3 "name" "varchar").withMaxLength 50]

/-- A Postgres table with audit columns, a key of two columns, an array and a document. -/
def orders : List Column :=
  [(Column.new 1 "order_id" "int8").asKey,
   (Column.new 2 "line_no" "int4").asKey,
   ((Column.new 3 "sku" "varchar").withMaxLength 32).withComment "stock keeping unit",
   (Column.new 4 "tags" "_text").asNullable,
   (Column.new 5 "payload" "jsonb").asNullable,
   Column.new 6 "placed_at" "timestamptz",
   Column.new 7 "insert_user_id" "varchar",
   (Column.new 8 "UPDATE_DTM" "timestamp").asNullable]

/-- A SQL Server table with value and reference types. -/
def accounts : List Column :=
  [(Column.new 1 "account_id" "uniqueidentifier").asKey,
   (Column.new 2 "balance" "money").asNullable,
   ((Column.new 3 "display_name" "nvarchar").asNullable).withMaxLength 100,
   Column.new 4 "opened_at" "datetimeoffset"]

def stream (columns : List Column) : List StreamItem := columns.map .ok

/-- A stream of columns that fails after the last one. -/
def failingStream (columns : List Column) (message : String) : List StreamItem :=
  stream columns ++ [.error (.provider message)]

end SchemaCodegen.Samples
