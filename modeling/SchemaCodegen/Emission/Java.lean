import SchemaCodegen.Declaration.Java
import SchemaCodegen.Emission.Emitter
import SchemaCodegen.Naming.Member
import SchemaCodegen.Options.Styles
import SchemaCodegen.TypeMap.Java

/-!
# Java classes and records

Both styles declare the same members: a field and a component of a column agree in annotations,
type and name.
-/

namespace SchemaCodegen.Java

def columnAnnotations (swagger jackson : Bool) (c : Column) : List AnnotationTag :=
  (match swagger, c.doc with
    | true, some doc => [.schema doc]
    | _, _ => []) ++
    if jackson then [.jsonProperty (Naming.camel c.name)] else []

def columnField (engine : Engine) (swagger jackson : Bool) (c : Column) : Field where
  name := Naming.javaField c.name
  type := TypeTable.java.mapType engine c.rawType
  annotations := columnAnnotations swagger jackson c

def classAnnotations (o : JavaDtoOptions) : List AnnotationTag :=
  (if o.data then [.data]
    else (if o.getter then [.getter] else []) ++ if o.setter then [.setter] else []) ++
    (if o.noArgsConstructor then [.noArgsConstructor] else []) ++
    (if o.allArgsConstructor then [.allArgsConstructor] else []) ++
    if o.builder then [.builder] else []

def classStart (context : Context) (o : JavaDtoOptions) : ClassDecl where
  name := context.typeName
  annotations := classAnnotations o
  implements := if o.serializable then ["Serializable"] else []
  fields := []
  spaced := o.extraSpacing

def takeField (context : Context) (o : JavaDtoOptions) (d : ClassDecl) (c : Column) : ClassDecl :=
  d.addField (columnField context.engine o.swaggerAnnotations o.jacksonAnnotations c)

def recordStart (context : Context) (o : JavaRecordOptions) : RecordDecl where
  name := context.typeName
  annotations := if o.builder then [.builder] else []
  components := []
  spaced := o.extraSpacing

def takeComponent (context : Context) (o : JavaRecordOptions) (d : RecordDecl) (c : Column) :
    RecordDecl :=
  d.addComponent (columnField context.engine o.swaggerAnnotations o.jacksonAnnotations c)

def dtoEmitter : Emitter JavaDtoOptions where
  style := .dto
  options := JavaDtoOptions.table
  emit context o stream :=
    (context.pullInto (takeField context o) (classStart context o) stream).map
      ClassDecl.print

def recordEmitter : Emitter JavaRecordOptions where
  style := .record
  options := JavaRecordOptions.table
  emit context o stream :=
    (context.pullInto (takeComponent context o) (recordStart context o) stream).map
      RecordDecl.print

end SchemaCodegen.Java
