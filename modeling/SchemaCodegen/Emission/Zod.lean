import SchemaCodegen.Declaration.TypeScript
import SchemaCodegen.Emission.Emitter
import SchemaCodegen.Layout.Printer
import SchemaCodegen.Naming.Member
import SchemaCodegen.Options.Styles
import SchemaCodegen.TypeMap.Zod

/-!
# Zod schemas

A schema has one field per column: the schema of the column's type, followed by refinements of
plain strings and then by marks for missing values.
-/

namespace SchemaCodegen.Zod

open TypeScript

/-- The bound of a column's field, for plain strings only. -/
def fieldBound (o : ZodOptions) (type : String) (c : Column) : Option String :=
  if o.maxValue && type == TypeTable.zodString then c.maxLength.map toString else none

/-- The calls that refine a plain string. -/
def refine (o : ZodOptions) (type : String) (c : Column) (chain : CallChain) : CallChain :=
  (chain.callIf (o.trim && type == TypeTable.zodString) "trim").callWith "max" (fieldBound o type c)

def admitMissing (o : ZodOptions) (c : Column) (chain : CallChain) : CallChain :=
  if o.nullish then chain.call "nullish" []
  else (chain.callIf (o.nullable || c.isNullable) "nullable").callIf o.allOptional "optional"

/-- The expression of a column's field. -/
def fieldChain (engine : Engine) (o : ZodOptions) (c : Column) : CallChain :=
  let type := TypeTable.zod.mapType engine c.rawType
  admitMissing o c (refine o type c ⟨"z." ++ type⟩)

def fieldComment (o : ZodOptions) (c : Column) : String :=
  match o.comments, c.doc with
  | true, some doc => " // " ++ Naming.commentText doc
  | _, _ => ""

def fieldLine (engine : Engine) (o : ZodOptions) (c : Column) : String :=
  Naming.typescriptProperty c.name ++ ": " ++ (fieldChain engine o c).text ++ "," ++
    fieldComment o c

def schemaHeader (typeName : String) : String :=
  "export const " ++ typeName ++ "Schema = z.object(\x7b"

/-- The line that declares the type of a schema's values. -/
def inferredAlias (typeName : String) : String :=
  "export type " ++ typeName ++ " = z.infer<typeof " ++ typeName ++ "Schema>;"

def schemaStart (context : Context) : Printer :=
  ((Printer.start .two).line (schemaHeader context.typeName)).indent

def takeField (context : Context) (o : ZodOptions) (p : Printer) (c : Column) : Printer :=
  p.line (fieldLine context.engine o c)

def schemaEnd (context : Context) (o : ZodOptions) (p : Printer) : Printer :=
  let closed := p.dedent.line "\x7d).strict();"
  if o.exportAllTypes then closed.blank.line (inferredAlias context.typeName) else closed

def schemaEmitter : Emitter ZodOptions where
  style := .zod
  options := ZodOptions.table
  emit context o stream :=
    (context.pullInto (takeField context o) (schemaStart context) stream).map
      fun p => (schemaEnd context o p).text

end SchemaCodegen.Zod
