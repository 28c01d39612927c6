import SchemaCodegen.Document.Fault

/-!
# The content of trees

What a tree says apart from its places is a value. A reader may also pass over a tree without
asking what it says. Either way the tree is visited in the order of the text, and the first scalar
that cannot be visited so is at fault.
-/

namespace SchemaCodegen.Document

open SchemaCodegen.Text

namespace Value

/-- The value of a scalar. Numbers that are not finite become `null`. -/
def ofScalar (span : Span) : Scalar → Except Fault Value
  | .null => .ok .null
  | .bool b => .ok (.bool b)
  | .int i => .ok (.int i)
  | .real x => .ok (if x.isFinite then .real x else .null)
  | .text s => .ok (.text s)
  | .moment s => .ok (.object [(momentKey, .text s)])
  | content => .error (content.fault span)

mutual

/-- The value of a tree. Of several entries of one key the last counts. -/
def ofNode : Node → Except Fault Value
  | .scalar span content => ofScalar span content
  | .list _ items => (ofItems items).map .list
  | .table _ entries => (ofEntries entries).map fun values => .object (sortEntries values)

def ofItems : List Node → Except Fault (List Value)
  | [] => .ok []
  | item :: rest =>
    match ofNode item with
    | .ok value => (ofItems rest).map (value :: ·)
    | .error fault => .error fault

/-- The entries of a table without their places. -/
def ofEntries : List (Key × Node) → Except Fault (List (String × Value))
  | [] => .ok []
  | (key, node) :: rest =>
    match ofNode node with
    | .ok value => (ofEntries rest).map ((key.text, value) :: ·)
    | .error fault => .error fault

end

end Value

namespace Node

mutual

/-- The fault that keeps a reader from passing over a tree, if there is one. -/
def obstacle? : Node → Option Fault
  | scalar span (.overflow kind) => some (Scalar.fault (.overflow kind) span)
  | scalar _ _ => none
  | list _ items => firstObstacle? items
  | table _ entries => entryObstacle? entries

def firstObstacle? : List Node → Option Fault
  | [] => none
  | item :: rest => (obstacle? item).or (firstObstacle? rest)

def entryObstacle? : List (Key × Node) → Option Fault
  | [] => none
  | (_, value) :: rest => (obstacle? value).or (entryObstacle? rest)

end

end Node

end SchemaCodegen.Document
