import SchemaCodegen.Text.Blank
import SchemaCodegen.Text.Casing

/-!
# Pascal and camel case

Database names are cut at underscores into segments. A segment that mixes cases keeps its
spelling, any other is put into lower case; then the first letter is capitalised, except that
of the first segment of a camel-case name, which becomes small.
-/

namespace SchemaCodegen.Naming

/-- The parts of a name between underscores. -/
def parts (cs : List Char) : List (List Char) := Text.segments (· == '_') cs

/-- A part in lower case, unless it mixes cases. -/
def normalizePart (part : List Char) : List Char :=
  if Text.mixesCases part then part else Text.lowerChars [] part

def capitalPart (part : List Char) : List Char := Text.upperFirst (normalizePart part)

def smallPart (part : List Char) : List Char := Text.lowerFirst (normalizePart part)

def pascalChars (cs : List Char) : List Char := (parts cs).flatMap capitalPart

def camelChars (cs : List Char) : List Char :=
  match parts cs with
  | [] => []
  | first :: rest => smallPart first ++ rest.flatMap capitalPart

/-- The name in Pascal case: `user_account` becomes `UserAccount`. -/
def pascal (name : String) : String := String.ofList (pascalChars name.toList)

/-- The name in camel case: `created_at` becomes `createdAt`. -/
def camel (name : String) : String := String.ofList (camelChars name.toList)

/-- Texts put before and after every type name of a request. -/
structure Affixes where
  before : String
  after : String
deriving DecidableEq, Repr

def Affixes.none : Affixes := ⟨"", ""⟩

def typeName (affixes : Affixes) (table : String) : String :=
  affixes.before ++ pascal table ++ affixes.after

end SchemaCodegen.Naming
