import SchemaCodegen.Document.Fault
import SchemaCodegen.Document.Format

/-!
# Source files

Decoding the text of a file, and the failures that are reported for it. A text that is no document
at all is malformed. A document that is not of the expected shape is mistyped, unless it also has
parts that could not be kept: then it is malformed as well.
-/

namespace SchemaCodegen.Document

open SchemaCodegen.Text

structure Source where
  name : String
  text : String
deriving DecidableEq, Repr

inductive ReadError where
  /-- There is no such file, or its content is no text. -/
  | noText (path : String)
  | malformed (source : Source)
  | mistyped (source : Source) (detail : String) (span : Option Span)
  /-- The document has the expected shape, but a value is not allowed. -/
  | invalid (source : Source) (problem : String) (span : Option Span)
deriving DecidableEq, Repr

namespace ReadError

def message : ReadError → String
  | noText path => "failed to read '" ++ path ++ "'"
  | malformed source | mistyped source _ _ => "failed to parse " ++ source.name
  | invalid _ problem _ => problem

/-- The code under which the failure is documented. -/
def code : ReadError → String
  | noText _ => "typegen::io_error"
  | malformed _ | mistyped .. => "typegen::parse_error"
  | invalid .. => "typegen::validation_error"

end ReadError

namespace Source

/-- The failure of a value that is not allowed, shown where `needle` occurs in the text. -/
def invalid (s : Source) (problem : String) (needle : Option String) : ReadError :=
  .invalid s problem (needle.bind (findSpan s.text))

/-- The failure of a document of the wrong shape. JSON faults are shown at the place that was
reached, and TOML faults at the value. -/
def mistyped (s : Source) (format : Format) (fault : Fault) : ReadError :=
  match format with
  | .json =>
    let here := lineColumn s.text fault.reached
    .mistyped s
      (fault.cause.message .mixed ++ " at line " ++ toString here.line ++ " column " ++
        toString here.column)
      ((byteOffset s.text here.line here.column).map (⟨·, 0⟩))
  | .toml => .mistyped s (fault.cause.message .positional) (some fault.span)

def decode {α : Type} (s : Source) (format : Format) (decoder : Node → Except Fault α) :
    Except ReadError α :=
  match format.read? s.text with
  | none => .error (.malformed s)
  | some root =>
    match decoder root with
    | .ok value => .ok value
    | .error fault =>
      .error (if format.isSound root then s.mistyped format fault else .malformed s)

end Source

end SchemaCodegen.Document
