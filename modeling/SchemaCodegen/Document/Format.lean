import SchemaCodegen.Document.Json.Reader
import SchemaCodegen.Document.Toml.Kept
import SchemaCodegen.Document.Toml.Statement
import SchemaCodegen.Text.Blank
import SchemaCodegen.Text.Casing

/-!
# Document formats

A file is TOML if its name says so, and JSON otherwise.
-/

namespace SchemaCodegen.Document

open SchemaCodegen.Text

inductive Format where
  | json
  | toml
deriving DecidableEq, Repr

namespace Format

/-- The last part of a path that names something: empty parts and single points do not. -/
def lastName? (path : String) : Option (List Char) :=
  ((segments (· == '/') path.toList).filter (· != ['.'])).getLast?

/-- What follows the last point of a file name, if something stands before it. -/
def suffix? (name : List Char) : Option (List Char) :=
  if name = ['.', '.'] then none
  else
    match name.reverse.dropWhile (· != '.') with
    | [] | [_] => none
    | _ => some (name.reverse.takeWhile (· != '.')).reverse

def ofPath (path : String) : Format :=
  match (lastName? path).bind suffix? with
  | some suffix => if equalAsciiFolded (String.ofList suffix) "toml" then toml else json
  | none => json

def read? : Format → String → Option Node
  | json => Json.read?
  | toml => Toml.read?

/-- Whether all of a tree can be kept, not only the parts that a reader looks at. -/
def isSound : Format → Node → Bool
  | json => Node.isReadable
  | toml => Toml.canKeepRoot

end Format

end SchemaCodegen.Document
