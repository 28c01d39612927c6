import SchemaCodegen.Emission.CSharp
import SchemaCodegen.Emission.Java
import SchemaCodegen.Emission.Mapper
import SchemaCodegen.Emission.TypeScript
import SchemaCodegen.Emission.Zod

/-!
# Configured targets

A target together with its decoded options. A request is resolved and configured once, before any
table is opened, and then applied to each of its tables.
-/

namespace SchemaCodegen

inductive Configured where
  | javaDto (options : JavaDtoOptions)
  | javaRecord (options : JavaRecordOptions)
  | javaMapperXml (options : MapperOptions)
  | javaMapperInterface (options : MapperOptions)
  | csharpDto (options : CSharpDtoOptions)
  | csharpRecord (options : CSharpRecordOptions)
  | typescript (kind : TypeScript.ObjectKind) (options : TypeScriptOptions)
  | typescriptZod (options : ZodOptions)
deriving DecidableEq, Repr

/-- The target that two names spell. -/
def Target.resolve (language style : String) : Except GenerationError Target :=
  match Target.ofNames? language style with
  | some target => .ok target
  | none => .error (.unsupportedTarget language style)

def Target.configure (t : Target) (payload : Document.Value) : Except GenerationError Configured :=
  match t with
  | .javaDto => (Java.dtoEmitter.decode payload).map .javaDto
  | .javaRecord => (Java.recordEmitter.decode payload).map .javaRecord
  | .javaMapperXml => (Mapper.documentEmitter.decode payload).map .javaMapperXml
  | .javaMapperInterface => (Mapper.interfaceEmitter.decode payload).map .javaMapperInterface
  | .csharpDto => (CSharp.dtoEmitter.decode payload).map .csharpDto
  | .csharpRecord => (CSharp.recordEmitter.decode payload).map .csharpRecord
  | .typescriptInterface =>
    ((TypeScript.objectEmitter .interface).decode payload).map (.typescript .interface)
  | .typescriptClass =>
    ((TypeScript.objectEmitter .objectClass).decode payload).map (.typescript .objectClass)
  | .typescriptType => ((TypeScript.objectEmitter .type).decode payload).map (.typescript .type)
  | .typescriptZod => (Zod.schemaEmitter.decode payload).map .typescriptZod

/-- The source of the items, taken in order, under the configured options. -/
def Configured.generate (c : Configured) (context : Context) (items : List StreamItem) :
    Except GenerationError String :=
  let stream := OrderedStream.start items
  match c with
  | .javaDto o => Java.dtoEmitter.emit context o stream
  | .javaRecord o => Java.recordEmitter.emit context o stream
  | .javaMapperXml o => Mapper.documentEmitter.emit context o stream
  | .javaMapperInterface o => Mapper.interfaceEmitter.emit context o stream
  | .csharpDto o => CSharp.dtoEmitter.emit context o stream
  | .csharpRecord o => CSharp.recordEmitter.emit context o stream
  | .typescript kind o => (TypeScript.objectEmitter kind).emit context o stream
  | .typescriptZod o => Zod.schemaEmitter.emit context o stream

/-- Decodes the options of a value, then generates the source of a column stream. -/
def Target.generate (t : Target) (context : Context) (payload : Document.Value)
    (items : List StreamItem) : Except GenerationError String :=
  match t.configure payload with
  | .ok configured => configured.generate context items
  | .error failure => .error failure

end SchemaCodegen
