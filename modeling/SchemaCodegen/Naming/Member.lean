import SchemaCodegen.Naming.Basic
import SchemaCodegen.Naming.Keyword
import SchemaCodegen.Text.Alphanumeric
import SchemaCodegen.Text.Literal

/-!
# Member names

The name of a column's member in each language. A Java field that would be a reserved word gets
an underscore behind it, a C# property an `@` in front, and a TypeScript property that is no
identifier is quoted.
-/

namespace SchemaCodegen.Naming

def javaField (column : String) : String :=
  let name := camel column
  if javaKeywords.contains name then name ++ "_" else name

/-- The C# property of a column, in Pascal or in camel case. -/
def csharpProperty (column : String) (inCamelCase : Bool) : String :=
  if inCamelCase then
    let name := camel column
    if csharpKeywords.contains name then "@" ++ name else name
  else pascal column

def startsIdentifier (c : Char) : Bool := Text.isAlphabetic c || c == '_' || c == '$'

def continuesIdentifier (c : Char) : Bool := Text.isAlphanumeric c || c == '_' || c == '$'

def isIdentifier : List Char → Bool
  | [] => false
  | c :: cs => startsIdentifier c && cs.all continuesIdentifier

def typescriptProperty (column : String) : String :=
  let name := camel column
  if isIdentifier name.toList then name else Text.literal Text.escapeQuote name

/-- Breaks up every end of a block comment. -/
def breakCommentEnd : List Char → List Char
  | [] => []
  | '*' :: '/' :: cs => '*' :: '\\' :: '/' :: breakCommentEnd cs
  | c :: cs => c :: breakCommentEnd cs

/-- A comment on one line that no comment end can cut short. -/
def commentText (comment : String) : String :=
  String.ofList (breakCommentEnd (Text.collapseBlanks comment.toList))

end SchemaCodegen.Naming
