import SchemaCodegen.Text.Casing
import SchemaCodegen.Vocabulary.UnknownName

/-!
# Languages, styles and targets

A target is a pair of a language and a style for which source can be generated. Ten pairs are
targets; the others are refused before anything else of a request is looked at.
-/

namespace SchemaCodegen

inductive Language where
  | java
  | csharp
  | typescript
deriving DecidableEq, Repr

namespace Language

def name : Language → String
  | java => "java"
  | csharp => "csharp"
  | typescript => "typescript"

def spellings : List (String × Language) :=
  [("java", java), ("csharp", csharp), ("cs", csharp), ("c#", csharp),
   ("typescript", typescript), ("ts", typescript)]

def ofName (s : String) : Except UnknownName Language :=
  match spellings.lookup (Text.lower s) with
  | some language => .ok language
  | none => .error (.language s)

end Language

/-- The shape of a generated unit. -/
inductive Style where
  /-- A mutable class. -/
  | dto
  /-- An immutable record. -/
  | record
  /-- A TypeScript interface. -/
  | interface
  /-- A TypeScript class. -/
  | objectClass
  /-- A TypeScript object type. -/
  | type
  /-- A Zod validation schema. -/
  | zod
  /-- A MyBatis mapper document. -/
  | mapperXml
  /-- An annotated MyBatis mapper interface. -/
  | mapperInterface
deriving DecidableEq, Repr

namespace Style

def name : Style → String
  | dto => "dto"
  | record => "record"
  | interface => "interface"
  | objectClass => "class"
  | type => "type"
  | zod => "zod"
  | mapperXml => "mybatis-xml"
  | mapperInterface => "mybatis-annotation"

def spellings : List (String × Style) :=
  [("dto", dto), ("record", record), ("interface", interface), ("class", objectClass),
   ("type", type), ("zod", zod),
   ("mybatis-xml", mapperXml), ("mybatis", mapperXml), ("xml", mapperXml),
   ("mybatis-annotation", mapperInterface), ("annotation", mapperInterface)]

def ofName (s : String) : Except UnknownName Style :=
  match spellings.lookup (Text.lower s) with
  | some style => .ok style
  | none => .error (.style s)

end Style

/-- A supported pair of language and style. -/
inductive Target where
  | javaDto
  | javaRecord
  | javaMapperXml
  | javaMapperInterface
  | csharpDto
  | csharpRecord
  | typescriptInterface
  | typescriptClass
  | typescriptType
  | typescriptZod
deriving DecidableEq, Repr

namespace Target

/-- Every target, grouped by language. -/
def all : List Target :=
  [javaDto, javaRecord, javaMapperXml, javaMapperInterface, csharpDto, csharpRecord,
   typescriptInterface, typescriptClass, typescriptType, typescriptZod]

def language : Target → Language
  | javaDto | javaRecord | javaMapperXml | javaMapperInterface => .java
  | csharpDto | csharpRecord => .csharp
  | typescriptInterface | typescriptClass | typescriptType | typescriptZod => .typescript

def style : Target → Style
  | javaDto | csharpDto => .dto
  | javaRecord | csharpRecord => .record
  | javaMapperXml => .mapperXml
  | javaMapperInterface => .mapperInterface
  | typescriptInterface => .interface
  | typescriptClass => .objectClass
  | typescriptType => .type
  | typescriptZod => .zod

/-- The target as it is shown to users. -/
def name (t : Target) : String := t.language.name ++ "/" ++ t.style.name

def ofPair? (language : Language) (style : Style) : Option Target :=
  all.find? fun t => t.language == language && t.style == style

/-- The target that two names spell, aliases and letter case included. -/
def ofNames? (language style : String) : Option Target :=
  match Language.ofName language, Style.ofName style with
  | .ok l, .ok s => ofPair? l s
  | _, _ => none

end Target

end SchemaCodegen
