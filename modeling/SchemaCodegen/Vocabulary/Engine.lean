import SchemaCodegen.Text.Casing
import SchemaCodegen.Vocabulary.UnknownName

/-!
# Database engines

The relational dialects whose type names are understood.
-/

namespace SchemaCodegen

inductive Engine where
  | mySql
  | postgres
  | sqlServer
deriving DecidableEq, Repr

namespace Engine

def name : Engine → String
  | mySql => "mysql"
  | postgres => "postgres"
  | sqlServer => "mssql"

/-- Every accepted spelling, in lower case. -/
def spellings : List (String × Engine) :=
  [("mysql", mySql), ("mariadb", mySql),
   ("postgres", postgres), ("postgresql", postgres), ("pg", postgres),
   ("mssql", sqlServer), ("sqlserver", sqlServer), ("sql_server", sqlServer)]

def ofName (s : String) : Except UnknownName Engine :=
  match spellings.lookup (Text.lower s) with
  | some engine => .ok engine
  | none => .error (.engine s)

end Engine

end SchemaCodegen
