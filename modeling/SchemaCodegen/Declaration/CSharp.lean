import SchemaCodegen.Layout.Printer
import SchemaCodegen.Text.Literal

/-!
# C# declarations

Classes and records with a body, and positional records. The namespaces that attributes need
are imported above the declaration.
-/

namespace SchemaCodegen.CSharp

inductive AttributeTag where
  /-- The name of a member in JSON. -/
  | jsonPropertyName (name : String)
deriving DecidableEq, Repr

namespace AttributeTag

def requiredNamespace : AttributeTag → String
  | jsonPropertyName _ => "System.Text.Json.Serialization"

/-- The attribute without brackets. -/
def body : AttributeTag → String
  | jsonPropertyName name => "JsonPropertyName(" ++ Text.literal Text.escapeQuote name ++ ")"

/-- The attribute as it stands before a member. -/
def text (a : AttributeTag) : String := "[" ++ a.body ++ "]"

/-- The attribute with an explicit target. -/
def targeted (a : AttributeTag) (target : String) : String := "[" ++ target ++ ": " ++ a.body ++ "]"

end AttributeTag

/-- The namespaces of attributes, each once, in the order of their first use. -/
def namespaces (attributes : List AttributeTag) : List String :=
  (attributes.map (·.requiredNamespace)).eraseDups

/-- The imports that attributes need, with a blank line behind them. -/
def usingLines (attributes : List AttributeTag) : List Fragment :=
  match namespaces attributes with
  | [] => []
  | needed => needed.map (fun n => .line ("using " ++ n ++ ";")) ++ [.blank]

structure Member where
  attributes : List AttributeTag
  declaration : String
deriving DecidableEq, Repr

inductive TypeKeyword where
  | classType
  | record
deriving DecidableEq, Repr

def TypeKeyword.text : TypeKeyword → String
  | .classType => "class"
  | .record => "record"

structure TypeDecl where
  keyword : TypeKeyword
  name : String
  members : List Member
  /-- Whether a blank line stands between members. -/
  spaced : Bool
deriving DecidableEq, Repr

namespace TypeDecl

def addMember (t : TypeDecl) (m : Member) : TypeDecl := { t with members := t.members ++ [m] }

def memberLines (m : Member) : List Fragment :=
  m.attributes.map (fun a => .line a.text) ++ [.line m.declaration]

/-- The declaration as fragments, with its braces on lines of their own. -/
def fragments (t : TypeDecl) : List Fragment :=
  usingLines (t.members.flatMap (·.attributes)) ++
    [.line ("public " ++ t.keyword.text ++ " " ++ t.name),
     .block "\x7b" (Fragment.joinGroups t.spaced (t.members.map memberLines)) (some "\x7d")]

def print (t : TypeDecl) : String := Fragment.print .four t.fragments

end TypeDecl

structure Parameter where
  type : String
  name : String
  attributes : List AttributeTag
deriving DecidableEq, Repr

structure PositionalRecord where
  name : String
  parameters : List Parameter
  /-- Whether a blank line stands between parameters. -/
  spaced : Bool
deriving DecidableEq, Repr

namespace PositionalRecord

def addParameter (r : PositionalRecord) (p : Parameter) : PositionalRecord :=
  { r with parameters := r.parameters ++ [p] }

/-- The line of one parameter before its separator. An attribute goes to the property that the
parameter generates. -/
def parameterLine (parameter : Parameter × String) : Fragment :=
  .line (String.join (parameter.1.attributes.map fun a => a.targeted "property" ++ " ") ++
    parameter.1.type ++ " " ++ parameter.1.name ++ parameter.2)

/-- The record as fragments; without parameters it stands on one line. -/
def fragments (r : PositionalRecord) : List Fragment :=
  usingLines (r.parameters.flatMap (·.attributes)) ++
    if r.parameters.isEmpty then [.line ("public record " ++ r.name ++ "();")]
    else
      [.block ("public record " ++ r.name ++ "(")
        (Fragment.joinGroups r.spaced
          ((withSeparators "," r.parameters).map fun p => [parameterLine p]))
        (some ");")]

def print (r : PositionalRecord) : String := Fragment.print .four r.fragments

end PositionalRecord

end SchemaCodegen.CSharp
