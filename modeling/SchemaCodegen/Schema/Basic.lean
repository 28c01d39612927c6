import SchemaCodegen.Document.Source
import SchemaCodegen.Schema.Row
import SchemaCodegen.Vocabulary.Engine

/-!
# Schemas

A schema describes the tables of one database. Its rows are kept undecoded until a table is opened,
so that a bad row fails only when a stream reaches it.
-/

namespace SchemaCodegen

open Document

structure Schema where
  engine : Engine
  /-- The rows of each table, tables in file order. -/
  tables : List (String × List Node)
deriving Repr

namespace Schema

/-- A row that is kept for later. -/
def keepRow (n : Node) : Except Fault Node :=
  match Toml.keep? n with
  | some kept => .ok kept
  | none => .error (n.fault .unreadable)

def keepTables : List (Key × Node) → Except Fault (List (String × List Node))
  | [] => .ok []
  | (key, node) :: rest =>
    match node.asList keepRow with
    | .error fault => .error fault
    | .ok rows => (keepTables rest).map ((key.text, rows) :: ·)

/-- The tables of a node. A moment is taken for a table with a single text in it. -/
def asTables (n : Node) : Except Fault (List (String × List Node)) :=
  match n with
  | .table _ entries => keepTables entries
  | .scalar span (.moment s) => .error (Node.mismatch (.scalar span (.text s)) "a sequence")
  | n => .error (n.mismatch "a map")

structure Draft where
  engine : Option Engine
  tables : Option (List (String × List Node))
deriving Repr

def slots : List (Slot Draft) :=
  [.of "engine" [] Draft.engine (fun v d => { d with engine := some v })
    (Node.asName Engine.ofName),
   .of "tables" [] Draft.tables (fun v d => { d with tables := some v }) asTables]

/-- The schema of a draft. There are no tables unless given. -/
def complete (absent : Nat → String → Cause) (d : Draft) : Except Cause Schema := do
  let engine ← required absent 0 "engine" d.engine
  return ⟨engine, d.tables.getD []⟩

def shape : Shape Draft Schema where
  name := "a schema"
  slots := slots
  blank := ⟨none, none⟩
  complete := complete
  surplus owner _ _ := owner.faultAtEnd .surplus

def ofNode (n : Node) : Except Fault Schema := shape.decode n

def ofSource (s : Source) : Except ReadError Schema := s.decode .toml ofNode

def items (rows : List Node) : List StreamItem := rows.mapIdx Row.item

/-- Opens a table, for an engine that the reader expects. -/
def openColumns (s : Schema) (engine : Engine) (table : String) :
    Except StreamError (List StreamItem) :=
  if engine ≠ s.engine then
    .error (.provider
      ("schema describes a " ++ s.engine.name ++ " database, not " ++ engine.name))
  else
    match s.tables.lookup table with
    | some rows => .ok (items rows)
    | none => .error (.tableNotFound table)

end Schema

end SchemaCodegen
