import SchemaCodegen.Declaration.TypeScript
import SchemaCodegen.Emission.Emitter
import SchemaCodegen.Layout.Printer
import SchemaCodegen.Naming.Member
import SchemaCodegen.Options.Styles
import SchemaCodegen.TypeMap.TypeScript

/-!
# TypeScript interfaces, classes and object types

The three styles differ in the lines around the properties only.
-/

namespace SchemaCodegen.TypeScript

/-- The type of a column, a union with `null` if the column accepts `NULL` and unions are
wanted. -/
def columnType (engine : Engine) (strict : Bool) (c : Column) : String :=
  TypeTable.typescript.mapType engine c.rawType ++
    if c.isNullable && strict then " | null" else ""

def columnDocs (engine : Engine) (o : TypeScriptOptions) (c : Column) : List String :=
  (if o.jsDocComments then ["@type \x7b" ++ columnType engine o.strictNullChecks c ++ "\x7d"]
    else []) ++
    match o.comments, c.doc with
    | true, some doc => [Naming.commentText doc]
    | _, _ => []

def columnProperty (engine : Engine) (o : TypeScriptOptions) (c : Column) : Property where
  name := Naming.typescriptProperty c.name
  type := columnType engine o.strictNullChecks c
  isOptional := o.optionalProperties || (c.isNullable && !o.strictNullChecks)
  readonly := o.readonlyProperties
  docs := columnDocs engine o c

def objectStart (kind : ObjectKind) (context : Context) (o : TypeScriptOptions) : ObjectDecl where
  kind := kind
  name := context.typeName
  properties := []
  exported := o.exportAllTypes
  spaced := o.extraSpacing

def takeProperty (context : Context) (o : TypeScriptOptions) (d : ObjectDecl) (c : Column) :
    ObjectDecl :=
  d.addProperty (columnProperty context.engine o c)

/-- The line that declares a utility type over the declared one. -/
def aliasLine (exported : Bool) (utility name : String) : Fragment :=
  .line ((if exported then "export " else "") ++ "type " ++ utility ++ name ++ " = " ++ utility ++
    "<" ++ name ++ ">;")

def aliasLines (o : TypeScriptOptions) (name : String) : List Fragment :=
  (if o.partialType || o.readonlyType then [.blank] else []) ++
    (if o.partialType then [aliasLine o.exportAllTypes "Partial" name] else []) ++
    if o.readonlyType then [aliasLine o.exportAllTypes "Readonly" name] else []

def printWithAliases (o : TypeScriptOptions) (d : ObjectDecl) : String :=
  Fragment.print .two (d.fragments ++ aliasLines o d.name)

def ObjectKind.style : ObjectKind → Style
  | interface => .interface
  | objectClass => .objectClass
  | type => .type

def objectEmitter (kind : ObjectKind) : Emitter TypeScriptOptions where
  style := kind.style
  options := TypeScriptOptions.table
  emit context o stream :=
    (context.pullInto (takeProperty context o) (objectStart kind context o) stream).map
      (printWithAliases o)

end SchemaCodegen.TypeScript
