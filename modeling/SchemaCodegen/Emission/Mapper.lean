import SchemaCodegen.Declaration.Java
import SchemaCodegen.Emission.Emitter
import SchemaCodegen.Layout.Printer
import SchemaCodegen.Options.Statements

/-!
# Mappers

A mapper document and an annotated mapper interface wrap the same statements. All names in them
derive from the bare table name: the affixes of a request do not apply.
-/

namespace SchemaCodegen.Mapper

/-- The entity of a table, from which a mapper's names derive. -/
def entity (table : String) : String := Naming.pascal table

def responseClass (table : String) : String := entity table ++ "Response"

/-- The class of the parameters of the other statements. -/
def parameterClass (table : String) : String := entity table ++ "Dto"

def repositoryClass (table : String) : String := entity table ++ "Repository"

/-- Prints statements one after the other, with a blank line above each but the first. -/
def printApart (print : Printer → Statement → Printer) (p : Printer)
    (statements : List Statement) : Printer :=
  statements.zipIdx.foldl (fun p s => print (if 0 < s.2 then p.blank else p) s.1) p

/-! ## Mapper documents -/

def openTag (table : String) (s : Statement) : String :=
  "<" ++ s.verb ++ " id=\"" ++ s.id (entity table) ++ "\" " ++
    (match s with
      | .select => "resultType=\"" ++ responseClass table
      | _ => "parameterType=\"" ++ parameterClass table) ++ "\">"

def printElement (table : String) (sets : ColumnSets) (p : Printer) (s : Statement) : Printer :=
  let opened := (p.line (openTag table s)).indent
  let written := (s.sql table sets).foldl Printer.line opened
  written.dedent.line ("</" ++ s.verb ++ ">")

def printDocument (context : Context) (o : MapperOptions) (columns : List Column) : Printer :=
  let sets := ColumnSets.of columns
  let header := "<mapper namespace=\"" ++ repositoryClass context.table ++ "\">"
  let opened := ((Printer.start .four).line header).indent
  (printApart (printElement context.table sets) opened o.selected).dedent.line "</mapper>"

/-! ## Mapper interfaces -/

/-- The name of the annotation that carries a statement. -/
def statementAnnotation : Statement → String
  | .select => "Select"
  | .insert => "Insert"
  | .update => "Update"
  | .delete => "Delete"

def methodLine (table : String) (s : Statement) : String :=
  match s with
  | .select =>
    responseClass table ++ " " ++ s.id (entity table) ++ "(" ++ responseClass table ++ " param);"
  | _ => "int " ++ s.id (entity table) ++ "(" ++ parameterClass table ++ " dto);"

/-- Prints the annotated method of a statement. The text block ends one level below its
annotation. -/
def printMethod (table : String) (sets : ColumnSets) (p : Printer) (s : Statement) : Printer :=
  let opened := (p.line ("@" ++ statementAnnotation s ++ "(\"\"\"")).indent
  let written := (s.sql table sets).foldl Printer.line opened
  (written.line "\"\"\")").dedent.line (methodLine table s)

def printInterface (context : Context) (o : MapperOptions) (columns : List Column) : Printer :=
  let sets := ColumnSets.of columns
  let imported := ((Printer.start .four).line "import org.apache.ibatis.annotations.*;").blank
  let header := "public interface " ++ repositoryClass context.table ++ " \x7b"
  let opened := ((imported.line Java.AnnotationTag.mapper.text).line header).indent
  (printApart (printMethod context.table sets) opened o.selected).dedent.line "\x7d"

/-! ## Emitters -/

def documentEmitter : Emitter MapperOptions where
  style := .mapperXml
  options := MapperOptions.table
  emit context o stream :=
    (context.drainStream stream).map fun columns => (printDocument context o columns).text

def interfaceEmitter : Emitter MapperOptions where
  style := .mapperInterface
  options := MapperOptions.table
  emit context o stream :=
    (context.drainStream stream).map fun columns => (printInterface context o columns).text

end SchemaCodegen.Mapper
