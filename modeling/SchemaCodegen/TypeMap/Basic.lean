import SchemaCodegen.Text.Blank
import SchemaCodegen.Text.Casing
import SchemaCodegen.Text.Search
import SchemaCodegen.Vocabulary.Engine

/-!
# Type names and type tables

Engines report type names with length arguments, in any letter case and with loose spacing. A
normalised name has none of these. A type table gives the type of each scalar name in one
notation; array types are written from the type of their element, and a name without an entry
gets the table's unknown type, so that mapping never fails.
-/

namespace SchemaCodegen

namespace TypeName

/-- The characters outside parentheses, at nesting depth `depth` before the first one. A closing
parenthesis without an opening one is dropped. -/
def outsideParens : Nat → List Char → List Char
  | _, [] => []
  | depth, c :: cs =>
    if c = '(' then outsideParens (depth + 1) cs
    else if c = ')' then outsideParens (depth - 1) cs
    else if depth = 0 then c :: outsideParens depth cs
    else outsideParens depth cs

/-- The name without arguments, with single spaces between its words, in lower case. -/
def normalize (raw : String) : String :=
  String.ofList (Text.lowerChars [] (Text.collapseBlanks (outsideParens 0 raw.toList)))

/-- The element of an array type: Postgres writes an underscore before it or brackets after it.
The other engines have no array types. -/
def arrayElement? (engine : Engine) (name : String) : Option String :=
  match engine with
  | .postgres =>
    let element :=
      match Text.dropLead? ['_'] name.toList with
      | some cs => some cs
      | none => Text.dropTail? ['[', ']'] name.toList
    ((element.map Text.trimChars).filter fun cs => !cs.isEmpty).map String.ofList
  | .mySql | .sqlServer => none

end TypeName

structure TypeTable where
  /-- The type of a name without an entry. -/
  unknown : String
  /-- The scalar names of an engine, grouped by their type. -/
  entries : Engine → List (List String × String)
  /-- The array type over an element type. -/
  arrayOf : String → String

namespace TypeTable

def scalar? (t : TypeTable) (engine : Engine) (name : String) : Option String :=
  ((t.entries engine).find? (·.1.contains name)).map (·.2)

def scalar (t : TypeTable) (engine : Engine) (name : String) : String :=
  (t.scalar? engine name).getD t.unknown

/-- The type of a column whose engine reports the name `raw`. -/
def mapType (t : TypeTable) (engine : Engine) (raw : String) : String :=
  let name := TypeName.normalize raw
  match TypeName.arrayElement? engine name with
  | some element => t.arrayOf (t.scalar engine element)
  | none => t.scalar engine name

/-- Array types that are written with brackets after the element. -/
def bracketed (element : String) : String := element ++ "[]"

end TypeTable

end SchemaCodegen
