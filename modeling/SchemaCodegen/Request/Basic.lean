import SchemaCodegen.Document.Shape
import SchemaCodegen.Document.Source
import SchemaCodegen.Naming.Basic

/-!
# Requests

A request names a target, the tables to generate in the order of the output, the affixes of type
names, and the options of the style. It is read from a JSON or a TOML document; both formats share
one shape.
-/

namespace SchemaCodegen

open Document

structure Request where
  language : String
  style : String
  affixes : Naming.Affixes
  /-- The tables in the order of the output. -/
  tableNames : List String
  options : Value
deriving Repr

namespace Request

/-- A request that is read in part. -/
structure Draft where
  language : Option String
  style : Option String
  before : Option String
  after : Option String
  tableNames : Option (List String)
  options : Option Value
deriving Repr

/-- The fields in the order of a request that is written as a list. -/
def slots : List (Slot Draft) :=
  [.of "language" [] Draft.language (fun v d => { d with language := some v }) Node.asText,
   .of "style" [] Draft.style (fun v d => { d with style := some v }) Node.asText,
   .of "prefix" [] Draft.before (fun v d => { d with before := some v }) Node.asText,
   .of "suffix" [] Draft.after (fun v d => { d with after := some v }) Node.asText,
   .of "tableNames" ["table_names"] Draft.tableNames (fun v d => { d with tableNames := some v })
    (Node.asList Node.asText),
   .of "options" [] Draft.options (fun v d => { d with options := some v }) Value.ofNode]

/-- The request of a draft. Affixes are empty and options null unless given. -/
def complete (absent : Nat → String → Cause) (d : Draft) : Except Cause Request := do
  let language ← required absent 0 "language" d.language
  let style ← required absent 1 "style" d.style
  let tableNames ← required absent 4 "tableNames" d.tableNames
  return ⟨language, style, ⟨d.before.getD "", d.after.getD ""⟩, tableNames, d.options.getD .null⟩

/-- The fault of an element after the last field, noticed at its first character. -/
def surplus (owner : Node) (_items : List Node) : List Node → Fault
  | [] => owner.faultAtEnd .surplus
  | extra :: _ => ⟨.surplus, owner.span, extra.span.start + 1⟩

def shape : Shape Draft Request where
  name := "struct GenerationRequest"
  slots := slots
  blank := ⟨none, none, none, none, none, none⟩
  complete := complete
  surplus := surplus

def ofNode (n : Node) : Except Fault Request := shape.decode n

/-- What is not allowed in a request, and the text to look for in the source. -/
def problem? (r : Request) : Option (String × String) :=
  if Text.isAllBlank r.language then some ("language must not be empty", "language")
  else if Text.isAllBlank r.style then some ("style must not be empty", "style")
  else
    (r.tableNames.find? Text.isAllBlank).map fun name => ("table names must not be blank", name)

def ofSource (s : Source) (format : Format) : Except ReadError Request :=
  match s.decode format ofNode with
  | .error failure => .error failure
  | .ok r =>
    match r.problem? with
    | none => .ok r
    | some (problem, needle) => .error (s.invalid problem (some needle))

end Request

end SchemaCodegen
