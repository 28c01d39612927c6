import SchemaCodegen.Text.Blank
import SchemaCodegen.Text.Search
import SchemaCodegen.Vocabulary.Nullability

/-!
# Columns

The description of one table column, as every emitter sees it.
-/

namespace SchemaCodegen

structure Column where
  /-- The position within the table, counted from one. -/
  ordinal : Nat
  /-- The name as stored in the database. -/
  name : String
  nullable : Nullability
  /-- The largest number of characters, if the engine reports one. -/
  maxLength : Option Nat
  /-- The engine's own name of the type. -/
  rawType : String
  isKey : Bool
  comment : Option String
deriving DecidableEq, Repr

namespace Column

/-- A column that is neither nullable nor a key, without length and comment. -/
def new (ordinal : Nat) (name rawType : String) : Column where
  ordinal := ordinal
  name := name
  nullable := .no
  maxLength := none
  rawType := rawType
  isKey := false
  comment := none

def asNullable (c : Column) : Column := { c with nullable := .yes }

def asKey (c : Column) : Column := { c with isKey := true }

def withMaxLength (c : Column) (n : Nat) : Column := { c with maxLength := some n }

def withComment (c : Column) (text : String) : Column := { c with comment := some text }

/-- The column as a key exactly when the engine's key mark mentions `PRI`. -/
def withKeyMark (c : Column) (mark : String) : Column :=
  { c with isKey := Text.occursIn "PRI" mark }

def isNullable (c : Column) : Bool := c.nullable == .yes

/-- The trimmed comment, unless it is blank. -/
def doc (c : Column) : Option String :=
  (c.comment.map Text.trim).filter fun text => !text.isEmpty

end Column

end SchemaCodegen
