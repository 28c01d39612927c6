import SchemaCodegen.Declaration.CSharp
import SchemaCodegen.Emission.Emitter
import SchemaCodegen.Naming.Member
import SchemaCodegen.Options.Styles
import SchemaCodegen.TypeMap.CSharp

/-!
# C# classes and records

A class has fields or properties; a record has properties or, as a positional record, parameters.
-/

namespace SchemaCodegen.CSharp

/-- The type of a column, marked if the column accepts `NULL` and marks are wanted. -/
def columnType (engine : Engine) (nullable : Bool) (c : Column) : String :=
  let type := TypeTable.csharp.mapType engine c.rawType
  if nullable && c.isNullable then CSharpType.markNullable type else type

def columnAttributes (jsonNames : Bool) (c : Column) : List AttributeTag :=
  if jsonNames then [.jsonPropertyName c.name] else []

/-- What follows the name of a class member. -/
def accessors (getter setter : Bool) : String :=
  match getter, setter with
  | _, true => " \x7b get; set; \x7d"
  | true, false => " \x7b get; \x7d"
  | false, false => ";"

def classMember (engine : Engine) (o : CSharpDtoOptions) (c : Column) : Member where
  attributes := columnAttributes o.jsonPropertyName c
  declaration :=
    "public " ++ columnType engine o.nullable c ++ " " ++
      Naming.csharpProperty c.name o.camelCaseProperties ++ accessors o.getter o.setter

def classStart (context : Context) (o : CSharpDtoOptions) : TypeDecl where
  keyword := .classType
  name := context.typeName
  members := []
  spaced := o.extraSpacing

def takeMember (context : Context) (o : CSharpDtoOptions) (d : TypeDecl) (c : Column) : TypeDecl :=
  d.addMember (classMember context.engine o c)

def recordMember (engine : Engine) (o : CSharpRecordOptions) (c : Column) : Member where
  attributes := columnAttributes o.jsonPropertyName c
  declaration :=
    "public " ++ columnType engine o.nullable c ++ " " ++
      Naming.csharpProperty c.name o.camelCaseProperties ++
      (if o.withInit then " \x7b get; init; \x7d" else " \x7b get; set; \x7d")

def recordParameter (engine : Engine) (o : CSharpRecordOptions) (c : Column) : Parameter where
  type := columnType engine o.nullable c
  name := Naming.csharpProperty c.name o.camelCaseProperties
  attributes := columnAttributes o.jsonPropertyName c

/-- A record under construction. Both forms are started, and the options decide which of them
takes up the columns and is printed. -/
structure RecordDraft where
  positional : PositionalRecord
  body : TypeDecl
deriving DecidableEq, Repr

def recordStart (context : Context) (o : CSharpRecordOptions) : RecordDraft where
  positional := ⟨context.typeName, [], o.extraSpacing⟩
  body := ⟨.record, context.typeName, [], o.extraSpacing⟩

def takeColumn (context : Context) (o : CSharpRecordOptions) (d : RecordDraft) (c : Column) :
    RecordDraft :=
  if o.positional then
    { d with positional := d.positional.addParameter (recordParameter context.engine o c) }
  else { d with body := d.body.addMember (recordMember context.engine o c) }

def RecordDraft.print (o : CSharpRecordOptions) (d : RecordDraft) : String :=
  if o.positional then d.positional.print else d.body.print

def dtoEmitter : Emitter CSharpDtoOptions where
  style := .dto
  options := CSharpDtoOptions.table
  emit context o stream :=
    (context.pullInto (takeMember context o) (classStart context o) stream).map
      TypeDecl.print

def recordEmitter : Emitter CSharpRecordOptions where
  style := .record
  options := CSharpRecordOptions.table
  emit context o stream :=
    (context.pullInto (takeColumn context o) (recordStart context o) stream).map
      (RecordDraft.print o)

end SchemaCodegen.CSharp
