import SchemaCodegen.Document.Json.Token

/-!
# Reading JSON

The tokens of a text are taken one by one; open lists, tables and entries wait on a stack. Any
nesting is read, but what is nested too deeply, or has a key without content, is unreadable.
-/

namespace SchemaCodegen.Document.Json

open SchemaCodegen.Text

/-- The largest number of lists and tables inside one another of which all are readable. -/
def maxDepth : Nat := 127

inductive Frame where
  /-- A list, its last element first. -/
  | list (start : Nat) (items : List Node)
  /-- A table, its last entry first, and whether all of its keys have content. -/
  | table (start : Nat) (entries : List (Key × Node)) (readable : Bool)
  /-- An entry of the table below it. -/
  | entry (key : Option String) (span : Span) (reached : Nat)
deriving Repr

inductive Expected where
  | value
  /-- A value, or the end of an empty list. -/
  | firstItem
  | key
  /-- A key, or the end of an empty table. -/
  | firstKey
  | colon (key : Option String) (span : Span)
  /-- A comma, or the end of the innermost list or table. -/
  | separator
  | nothing (root : Node)
deriving Repr

/-- A text that is read in part. -/
structure Reading where
  frames : List Frame
  /-- How many lists and tables are open. -/
  depth : Nat
  expected : Expected
deriving Repr

namespace Reading

def supply (r : Reading) (node : Node) : Option Reading :=
  match r.frames with
  | [] => some { r with expected := .nothing node }
  | .list start items :: rest =>
    some { r with frames := .list start (node :: items) :: rest, expected := .separator }
  | .entry (some key) span reached :: .table start entries readable :: rest =>
    some { r with
      frames := .table start ((⟨key, span, reached⟩, node) :: entries) readable :: rest,
      expected := .separator }
  -- a key that is no text spoils its table, which shows only when the table is closed
  | .entry none _ _ :: .table start entries _ :: rest =>
    some { r with frames := .table start entries false :: rest, expected := .separator }
  | _ => none

def push (r : Reading) (frame : Frame) (expected : Expected) : Reading :=
  ⟨frame :: r.frames, r.depth + 1, expected⟩

/-- Closes the innermost list or table; `mark` is the mark that closes it. -/
def close (r : Reading) (mark : Char) (span : Span) : Option Reading :=
  match r.frames, mark with
  | .list start items :: rest, ']' =>
    let place := ⟨start, span.stop - start⟩
    supply { r with frames := rest, depth := r.depth - 1 } <|
      -- what lies too deep is read to its end like anything else
      if r.depth ≤ maxDepth then .list place items.reverse else .scalar place .unreadable
  | .table start entries readable :: rest, '\x7d' =>
    let place := ⟨start, span.stop - start⟩
    supply { r with frames := rest, depth := r.depth - 1 } <|
      if readable && decide (r.depth ≤ maxDepth) then .table place entries.reverse
      else .scalar place .unreadable
  | _, _ => none

def startValue (r : Reading) (t : Token) : Option Reading :=
  match t.lexeme with
  | .mark '[' => some (r.push (.list t.span.start []) .firstItem)
  | .mark '\x7b' => some (r.push (.table t.span.start [] true) .firstKey)
  | .mark _ => none
  | .text (some s) => r.supply (.scalar t.span (.text s))
  | .text none => r.supply (.scalar t.span .unreadable)
  | .scalar content => r.supply (.scalar t.span content)

/-- What follows a comma in the innermost list or table. -/
def afterComma (r : Reading) : Option Reading :=
  match r.frames with
  | .list _ _ :: _ => some { r with expected := .value }
  | .table _ _ _ :: _ => some { r with expected := .key }
  | _ => none

def step (r : Reading) (t : Token) : Option Reading :=
  match r.expected, t.lexeme with
  | .value, _ => r.startValue t
  | .firstItem, .mark ']' => r.close ']' t.span
  | .firstItem, _ => r.startValue t
  | .key, .text key => some { r with expected := .colon key t.span }
  | .firstKey, .text key => some { r with expected := .colon key t.span }
  | .firstKey, .mark '\x7d' => r.close '\x7d' t.span
  | .colon key span, .mark ':' =>
    some { r with frames := .entry key span t.span.start :: r.frames, expected := .value }
  | .separator, .mark ',' => r.afterComma
  | .separator, .mark c => r.close c t.span
  | _, _ => none

def start : Reading := ⟨[], 0, .value⟩

/-- The document, if all of it is read. -/
def root? (r : Reading) : Option Node :=
  match r.expected with
  | .nothing root => some root
  | _ => none

end Reading

def read? (source : String) : Option Node :=
  (tokens 0 source.toList).bind fun ts =>
    (ts.foldlM Reading.step Reading.start).bind Reading.root?

end SchemaCodegen.Document.Json
