import SchemaCodegen.Column.Stream
import SchemaCodegen.Document.Shape

/-!
# Schema rows

A row describes one column of a table under the names of the metadata views. It is decoded from a
kept tree, in which moments are texts.
-/

namespace SchemaCodegen.Row

open Document

structure Draft where
  ordinal : Option Nat
  name : Option String
  nullable : Option Nullability
  maxLength : Option Nat
  rawType : Option String
  keyMark : Option String
  comment : Option String
deriving Repr

/-- The fields in the order of a row that is written as a list. -/
def slots : List (Slot Draft) :=
  [.of "ordinal_position" [] Draft.ordinal (fun v d => { d with ordinal := some v }) Node.asCount,
   .of "column_name" [] Draft.name (fun v d => { d with name := some v }) Node.asText,
   .of "is_nullable" [] Draft.nullable (fun v d => { d with nullable := some v })
    (Node.asName Nullability.ofName),
   .of "character_maximum_length" [] Draft.maxLength (fun v d => { d with maxLength := some v })
    Node.asCount,
   .of "data_type" [] Draft.rawType (fun v d => { d with rawType := some v }) Node.asText,
   .of "column_key" [] Draft.keyMark (fun v d => { d with keyMark := some v }) Node.asText,
   .of "column_comment" [] Draft.comment (fun v d => { d with comment := some v }) Node.asText]

/-- The column of a draft. Unless given, a column does not accept `NULL`, is no key, and has
neither a length nor a comment. -/
def complete (absent : Nat → String → Cause) (d : Draft) : Except Cause Column := do
  let ordinal ← required absent 0 "ordinal_position" d.ordinal
  let name ← required absent 1 "column_name" d.name
  let rawType ← required absent 4 "data_type" d.rawType
  let column := (Column.new ordinal name rawType).withKeyMark (d.keyMark.getD "")
  return { column with
    nullable := d.nullable.getD .no, maxLength := d.maxLength, comment := d.comment }

def shape : Shape Draft Column where
  name := "struct ColumnRow"
  slots := slots
  blank := ⟨none, none, none, none, none, none, none⟩
  complete := complete
  surplus owner items _ := owner.faultAtEnd (.wrongLength items.length "fewer elements in array")

def column (n : Node) : Except Fault Column := shape.decode n

/-- The item of a column stream for the row of an index, counted from zero. -/
def item (index : Nat) (n : Node) : StreamItem :=
  match column n with
  | .ok c => .ok c
  | .error fault => .error (.scan (index + 1) (fault.cause.message .positional))

end SchemaCodegen.Row
