import SchemaCodegen.Proofs.Emission.Source

/-!
# A unit as the blocks of its columns

The unit of every target but the mappers is an opening, one block per column
and a closing. The block of a column is a function of the column, the engine
and the options, except that it has to know whether it is the first one, for
the blank line above it, and whether it is the last one, for the comma behind
it. Opening and closing know whether there are columns at all.

A block holds the decorations of its column, which are annotations, attributes
or comments on lines of their own, and below them the one line that declares
the member of the column.
-/

namespace SchemaCodegen

namespace Configured

/-! ## What the options say about a unit -/

def isMapper : Configured → Bool
  | .javaMapperXml _ | .javaMapperInterface _ => true
  | _ => false

def isCSharp : Configured → Bool
  | .csharpDto _ | .csharpRecord _ => true
  | _ => false

/-- Whether C# members carry their names for JSON. -/
def jsonNames : Configured → Bool
  | .csharpDto o => o.jsonPropertyName
  | .csharpRecord o => o.jsonPropertyName
  | _ => false

def spaced : Configured → Bool
  | .javaDto o => o.extraSpacing
  | .javaRecord o => o.extraSpacing
  | .csharpDto o => o.extraSpacing
  | .csharpRecord o => o.extraSpacing
  | .typescript _ o => o.extraSpacing
  | _ => false

/-! ## Members -/

/-- The table of the language's types. -/
def typeTable : Configured → TypeTable
  | .javaDto _ | .javaRecord _ | .javaMapperXml _ | .javaMapperInterface _ => .java
  | .csharpDto _ | .csharpRecord _ => .csharp
  | .typescript .. => .typescript
  | .typescriptZod _ => .zod

/-- The mapped type of a column as the options admit `null` and bound its length. -/
def adapt (c : Configured) (isNullable : Bool) (maxLength : Option Nat) (type : String) : String :=
  let marked (nullable : Bool) :=
    if nullable && isNullable then CSharpType.markNullable type else type
  match c with
  | .csharpDto o => marked o.nullable
  | .csharpRecord o => marked o.nullable
  | .typescript _ o => type ++ if isNullable && o.strictNullChecks then " | null" else ""
  | .typescriptZod o =>
    let plain := type == TypeTable.zodString
    let trimmed := (TypeScript.CallChain.mk ("z." ++ type)).callIf (o.trim && plain) "trim"
    let bounded :=
      trimmed.callWith "max" (if o.maxValue && plain then maxLength.map toString else none)
    if o.nullish then (bounded.call "nullish" []).text
    else
      ((bounded.callIf (o.nullable || isNullable) "nullable").callIf o.allOptional "optional").text
  | _ => type

/-- The type of a column's member: the mapped raw type, changed by nothing but the column's own
nullability and largest length. -/
def memberType (c : Configured) (engine : Engine) (column : Column) : String :=
  c.adapt column.isNullable column.maxLength (c.typeTable.mapType engine column.rawType)

def memberName (c : Configured) (column : String) : String :=
  match c with
  | .csharpDto o => Naming.csharpProperty column o.camelCaseProperties
  | .csharpRecord o => Naming.csharpProperty column o.camelCaseProperties
  | .typescript .. | .typescriptZod _ => Naming.typescriptProperty column
  | _ => Naming.javaField column

def decorations (c : Configured) (engine : Engine) (column : Column) : List String :=
  match c with
  | .javaDto o =>
    (Java.columnAnnotations o.swaggerAnnotations o.jacksonAnnotations column).map (·.text)
  | .javaRecord o =>
    (Java.columnAnnotations o.swaggerAnnotations o.jacksonAnnotations column).map (·.text)
  | .csharpDto o => (CSharp.columnAttributes o.jsonPropertyName column).map (·.text)
  | .csharpRecord o =>
    if o.positional then [] else (CSharp.columnAttributes o.jsonPropertyName column).map (·.text)
  | .typescript _ o => (TypeScript.columnDocs engine o column).map Fragment.docLine
  | _ => []

/-- The line that declares a member of the name `name` and the type `type` for a column. -/
def declaration (c : Configured) (isLast : Bool) (column : Column) (name type : String) : String :=
  let separator := if isLast then "" else ","
  match c with
  | .javaDto _ => "private " ++ type ++ " " ++ name ++ ";"
  | .javaRecord _ => type ++ " " ++ name ++ separator
  | .csharpDto o => "public " ++ type ++ " " ++ name ++ CSharp.accessors o.getter o.setter
  | .csharpRecord o =>
    if o.positional then
      String.join ((CSharp.columnAttributes o.jsonPropertyName column).map fun a =>
        a.targeted "property" ++ " ") ++ type ++ " " ++ name ++ separator
    else
      "public " ++ type ++ " " ++ name ++
        (if o.withInit then " \x7b get; init; \x7d" else " \x7b get; set; \x7d")
  | .typescript _ o =>
    (if o.readonlyProperties then "readonly " else "") ++ name ++
      (if o.optionalProperties || (column.isNullable && !o.strictNullChecks) then "?" else "") ++
      ": " ++ type ++ ";"
  | .typescriptZod o => name ++ ": " ++ type ++ "," ++ Zod.fieldComment o column
  | _ => ""

def memberLines (c : Configured) (engine : Engine) (isLast : Bool) (column : Column) :
    List String :=
  c.decorations engine column ++
    [c.declaration isLast column (c.memberName column.name) (c.memberType engine column)]

/-! ## Opening, blocks and closing -/

def block (c : Configured) (engine : Engine) (isFirst isLast : Bool) (column : Column) : String :=
  (if c.spaced && !isFirst then "\n" else "") ++
    String.join ((c.memberLines engine isLast column).map (c.indent.lineAt 1))

def blocks (c : Configured) (engine : Engine) (columns : List Column) : List String :=
  columns.mapIdx fun i column => c.block engine (i == 0) (i + 1 == columns.length) column

/-- The import of the namespace that names for JSON need, if there are any. -/
def directive (c : Configured) (isEmpty : Bool) : String :=
  if c.jsonNames && !isEmpty then "using System.Text.Json.Serialization;\n\n" else ""

/-- The lines that open the declaration of a unit. Some declarations without members are closed on
the line that opens them. -/
def heading (c : Configured) (context : Context) (isEmpty : Bool) : List Fragment :=
  match c with
  | .javaDto o =>
    let header := (Java.classStart context o).header
    Java.annotationLines (Java.classAnnotations o) ++
      [.line (if isEmpty then header ++ "\x7d" else header)]
  | .javaRecord o =>
    Java.annotationLines (if o.builder then [.builder] else []) ++
      [.line (if isEmpty then "public record " ++ context.typeName ++ "() \x7b\x7d"
        else "public record " ++ context.typeName ++ "(")]
  | .csharpDto _ => [.line ("public class " ++ context.typeName), .line "\x7b"]
  | .csharpRecord o =>
    if o.positional then
      [.line (if isEmpty then "public record " ++ context.typeName ++ "();"
        else "public record " ++ context.typeName ++ "(")]
    else [.line ("public record " ++ context.typeName), .line "\x7b"]
  | .typescript kind o =>
    let start := TypeScript.objectStart kind context o
    [.line (if isEmpty then start.header ++ start.close else start.header)]
  | .typescriptZod _ => [.line (Zod.schemaHeader context.typeName)]
  | _ => []

/-- The lines that follow the members of a unit. -/
def ending (c : Configured) (context : Context) (isEmpty : Bool) : List Fragment :=
  match c with
  | .javaDto _ => if isEmpty then [] else [.line "\x7d"]
  | .javaRecord _ => if isEmpty then [] else [.line ") \x7b\x7d"]
  | .csharpDto _ => [.line "\x7d"]
  | .csharpRecord o =>
    if o.positional then (if isEmpty then [] else [.line ");"]) else [.line "\x7d"]
  | .typescript kind o =>
    (if isEmpty then [] else [.line (TypeScript.objectStart kind context o).close]) ++
      TypeScript.aliasLines o context.typeName
  | .typescriptZod o =>
    .line "\x7d).strict();" ::
      if o.exportAllTypes then [.blank, .line (Zod.inferredAlias context.typeName)] else []
  | _ => []

def opening (c : Configured) (context : Context) (isEmpty : Bool) : String :=
  c.directive isEmpty ++ Fragment.print c.indent (c.heading context isEmpty)

def closing (c : Configured) (context : Context) (isEmpty : Bool) : String :=
  Fragment.print c.indent (c.ending context isEmpty)

end Configured

/-! ## Groups with blank lines between them -/

namespace Fragment

/-- Every group but the first stands below a blank line, if groups are spaced. -/
theorem renderAll_joinGroups_cons (unit : Indent) (depth : Nat) (spaced : Bool)
    (first : List Fragment) (rest : List (List Fragment)) :
    renderAll unit depth (joinGroups spaced (first :: rest)) =
      renderAll unit depth first ++
        String.join (rest.map fun group =>
          (if spaced then "\n" else "") ++ renderAll unit depth group) := by
  have hgap : renderAll unit depth (if spaced then [.blank] else []) =
      if spaced then "\n" else "" := by
    cases spaced <;> rfl
  simp [hgap]

theorem renderAll_joinGroups (unit : Indent) (depth : Nat) (spaced : Bool)
    (groups : List (List Fragment)) :
    renderAll unit depth (joinGroups spaced groups) =
      String.join (groups.mapIdx fun i group =>
        (if spaced && !(i == 0) then "\n" else "") ++ renderAll unit depth group) := by
  cases groups with
  | nil => cases spaced <;> rfl
  | cons first rest =>
      have hrest : (rest.mapIdx fun i group =>
          (if spaced && !(i + 1 == 0) then "\n" else "") ++ renderAll unit depth group) =
          rest.map fun group => (if spaced then "\n" else "") ++ renderAll unit depth group := by
        apply List.ext_getElem?
        intro i
        simp
      rw [renderAll_joinGroups_cons, List.mapIdx_cons, String.join_cons, hrest]
      simp

end Fragment

end SchemaCodegen
