import SchemaCodegen.Generation.Run

/-!
# Reports

What commands tell about targets, schemas and generated units, as lines of text.
-/

namespace SchemaCodegen.CommandLine

inductive ReportLine where
  /-- The heading of what follows. -/
  | heading (name : String)
  | keyValue (key value : String)
  | item (text : String)
  /-- An item that the command has made. -/
  | added (text : String)
  | blank
deriving DecidableEq, Repr

def ReportLine.text : ReportLine → String
  | heading name => name ++ ":"
  | keyValue key value => key ++ ": " ++ value
  | item text => "  - " ++ text
  | added text => "  + " ++ text
  | blank => ""

/-- The text of lines, each with a line feed. -/
def reportText (lines : List ReportLine) : String :=
  String.join (lines.map fun line => line.text ++ "\n")

/-- A heading that tells the number of the items below it, or only that there are none. -/
def countedItems (name empty : String) (items : List ReportLine) : List ReportLine :=
  if items.isEmpty then [.heading empty]
  else .heading (name ++ " (" ++ toString items.length ++ ")") :: items

def generatedReport (output : String) (g : Generated) : List ReportLine :=
  [.keyValue "Target" g.target.name, .keyValue "Output" output] ++
    countedItems "Generated" "No tables requested"
      (g.units.map fun u => .added (u.typeName ++ " <- " ++ u.table))

def languages : List Language := [.java, .csharp, .typescript]

def styleNames (language : Language) : List String :=
  (Target.all.filter fun t => t.language == language).map (·.style.name)

def targetsReport : List ReportLine :=
  .heading "Targets" :: languages.map fun language =>
    .item (language.name ++ ": " ++ ", ".intercalate (styleNames language))

def schemaReport (path : String) (s : Schema) : List ReportLine :=
  [.blank, .keyValue "Schema" path, .keyValue "Engine" s.engine.name] ++
    countedItems "Tables" "No tables defined" (s.tables.map fun t => .item t.1)

end SchemaCodegen.CommandLine
