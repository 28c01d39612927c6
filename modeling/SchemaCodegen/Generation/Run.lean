import SchemaCodegen.Emission.Configured
import SchemaCodegen.Request.Basic
import SchemaCodegen.Schema.Basic

/-!
# Runs

A run generates all tables of a request, or none. The target and its options are settled before any
table is opened; then tables are opened one after the other, and the first failure ends the run.
-/

namespace SchemaCodegen

structure Provider where
  engine : Engine
  openColumns : String → Except StreamError (List StreamItem)

/-- The tables of a schema for its own engine. -/
def Schema.provider (s : Schema) : Provider := ⟨s.engine, s.openColumns s.engine⟩

structure SourceUnit where
  table : String
  typeName : String
  source : String
deriving DecidableEq, Repr

/-- The units of a request, in its order. -/
structure Generated where
  target : Target
  units : List SourceUnit
deriving DecidableEq, Repr

/-- All units with a blank line between any two. -/
def Generated.text (g : Generated) : String := "\n".intercalate (g.units.map (·.source))

/-- What a run did: the tables that it opened, in order, and what came of it. -/
structure Run (α : Type) where
  opened : List String
  result : Except GenerationError α

def Provider.unit (p : Provider) (configured : Configured) (affixes : Naming.Affixes)
    (table : String) : Except GenerationError SourceUnit :=
  match p.openColumns table with
  | .error cause => .error (.stream table cause)
  | .ok items =>
    let context := Context.of table p.engine affixes
    (configured.generate context items).map (⟨table, context.typeName, ·⟩)

/-- The units of tables, up to the first failure. -/
def Provider.units (p : Provider) (configured : Configured) (affixes : Naming.Affixes) :
    List String → Run (List SourceUnit)
  | [] => ⟨[], .ok []⟩
  | table :: rest =>
    match p.unit configured affixes table with
    | .error failure => ⟨[table], .error failure⟩
    | .ok unit =>
      let later := p.units configured affixes rest
      ⟨table :: later.opened, later.result.map (unit :: ·)⟩

def Request.run (r : Request) (p : Provider) : Run Generated :=
  match Target.resolve r.language r.style with
  | .error failure => ⟨[], .error failure⟩
  | .ok target =>
    match target.configure r.options with
    | .error failure => ⟨[], .error failure⟩
    | .ok configured =>
      let units := p.units configured r.affixes r.tableNames
      ⟨units.opened, units.result.map (⟨target, ·⟩)⟩

end SchemaCodegen
