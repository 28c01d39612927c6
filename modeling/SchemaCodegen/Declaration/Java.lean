import SchemaCodegen.Layout.Printer
import SchemaCodegen.Text.Literal

/-!
# Java declarations

Classes with private fields, and records with components, each under its annotations.
-/

namespace SchemaCodegen.Java

inductive AnnotationTag where
  | data
  | getter
  | setter
  | noArgsConstructor
  | allArgsConstructor
  | builder
  | mapper
  /-- The description of a member. -/
  | schema (description : String)
  /-- The name of a member in JSON. -/
  | jsonProperty (name : String)
deriving DecidableEq, Repr

def stringLiteral (s : String) : String := Text.literal Text.escapeQuoteOrBreak s

def AnnotationTag.text : AnnotationTag → String
  | .data => "@Data"
  | .getter => "@Getter"
  | .setter => "@Setter"
  | .noArgsConstructor => "@NoArgsConstructor"
  | .allArgsConstructor => "@AllArgsConstructor"
  | .builder => "@Builder"
  | .mapper => "@Mapper"
  | .schema description => "@Schema(description = " ++ stringLiteral description ++ ")"
  | .jsonProperty name => "@JsonProperty(" ++ stringLiteral name ++ ")"

def annotationLines (tags : List AnnotationTag) : List Fragment :=
  tags.map fun tag => .line tag.text

/-- A field of a class or a component of a record. -/
structure Field where
  name : String
  type : String
  annotations : List AnnotationTag
deriving DecidableEq, Repr

structure ClassDecl where
  name : String
  annotations : List AnnotationTag
  implements : List String
  fields : List Field
  /-- Whether a blank line stands between fields. -/
  spaced : Bool
deriving DecidableEq, Repr

namespace ClassDecl

def addField (c : ClassDecl) (f : Field) : ClassDecl := { c with fields := c.fields ++ [f] }

def header (c : ClassDecl) : String :=
  if c.implements.isEmpty then "public class " ++ c.name ++ " \x7b"
  else "public class " ++ c.name ++ " implements " ++ ", ".intercalate c.implements ++ " \x7b"

def fieldLines (f : Field) : List Fragment :=
  annotationLines f.annotations ++ [.line ("private " ++ f.type ++ " " ++ f.name ++ ";")]

/-- The class as fragments; without fields it stands on one line. -/
def fragments (c : ClassDecl) : List Fragment :=
  annotationLines c.annotations ++
    if c.fields.isEmpty then [.line (c.header ++ "\x7d")]
    else [.block c.header (Fragment.joinGroups c.spaced (c.fields.map fieldLines)) (some "\x7d")]

def print (c : ClassDecl) : String := Fragment.print .four c.fragments

end ClassDecl

structure RecordDecl where
  name : String
  annotations : List AnnotationTag
  components : List Field
  /-- Whether a blank line stands between components. -/
  spaced : Bool
deriving DecidableEq, Repr

namespace RecordDecl

def addComponent (r : RecordDecl) (f : Field) : RecordDecl :=
  { r with components := r.components ++ [f] }

/-- The lines of one component before its separator. -/
def componentLines (component : Field × String) : List Fragment :=
  annotationLines component.1.annotations ++
    [.line (component.1.type ++ " " ++ component.1.name ++ component.2)]

/-- The record as fragments; without components it stands on one line. -/
def fragments (r : RecordDecl) : List Fragment :=
  annotationLines r.annotations ++
    if r.components.isEmpty then [.line ("public record " ++ r.name ++ "() \x7b\x7d")]
    else
      [.block ("public record " ++ r.name ++ "(")
        (Fragment.joinGroups r.spaced ((withSeparators "," r.components).map componentLines))
        (some ") \x7b\x7d")]

def print (r : RecordDecl) : String := Fragment.print .four r.fragments

end RecordDecl

end SchemaCodegen.Java
