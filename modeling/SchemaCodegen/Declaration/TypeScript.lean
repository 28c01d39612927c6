import SchemaCodegen.Layout.Fragment

/-!
# TypeScript declarations

Interfaces, classes and object types, and expressions built from method calls.
-/

namespace SchemaCodegen.TypeScript

inductive ObjectKind where
  | interface
  | objectClass
  | type
deriving DecidableEq, Repr

namespace ObjectKind

def keyword : ObjectKind → String
  | interface => "interface"
  | objectClass => "class"
  | type => "type"

/-- What exports a declaration; a class is the default export of its module. -/
def exportText : ObjectKind → String
  | objectClass => "export default "
  | interface | type => "export "

end ObjectKind

structure Property where
  name : String
  type : String
  isOptional : Bool
  readonly : Bool
  /-- Comments above the property. -/
  docs : List String
deriving DecidableEq, Repr

def Property.lines (p : Property) : List Fragment :=
  p.docs.map .doc ++
    [.line ((if p.readonly then "readonly " else "") ++ p.name ++
      (if p.isOptional then "?" else "") ++ ": " ++ p.type ++ ";")]

structure ObjectDecl where
  kind : ObjectKind
  name : String
  properties : List Property
  exported : Bool
  /-- Whether a blank line stands between properties. -/
  spaced : Bool
deriving DecidableEq, Repr

namespace ObjectDecl

def addProperty (d : ObjectDecl) (p : Property) : ObjectDecl :=
  { d with properties := d.properties ++ [p] }

def header (d : ObjectDecl) : String :=
  (if d.exported then d.kind.exportText else "") ++ d.kind.keyword ++ " " ++ d.name ++
    (if d.kind = .type then " = \x7b" else " \x7b")

def close (d : ObjectDecl) : String := if d.kind = .type then "\x7d;" else "\x7d"

/-- The declaration as fragments; without properties it stands on one line. -/
def fragments (d : ObjectDecl) : List Fragment :=
  if d.properties.isEmpty then [.line (d.header ++ d.close)]
  else
    [.block d.header (Fragment.joinGroups d.spaced (d.properties.map Property.lines))
      (some d.close)]

end ObjectDecl

/-- An expression on one line that ends in method calls. -/
structure CallChain where
  text : String
deriving DecidableEq, Repr

namespace CallChain

def call (c : CallChain) (method : String) (arguments : List String) : CallChain :=
  ⟨c.text ++ "." ++ method ++ "(" ++ ", ".intercalate arguments ++ ")"⟩

/-- Appends a call without arguments if `condition` holds. -/
def callIf (c : CallChain) (condition : Bool) (method : String) : CallChain :=
  if condition then c.call method [] else c

/-- Appends a call with one argument if there is one. -/
def callWith (c : CallChain) (method : String) : Option String → CallChain
  | some argument => c.call method [argument]
  | none => c

end CallChain

end SchemaCodegen.TypeScript
