import SchemaCodegen.Document.Node
import SchemaCodegen.Vocabulary.UnknownName

/-!
# Decoding faults

Why a document is not what it should be, and where. A fault has two places: the span of the value
at fault, and how far the text was read when the fault was noticed. Formats differ in which of the
two they report.
-/

namespace SchemaCodegen.Document

open SchemaCodegen.Number SchemaCodegen.Text

inductive Cause where
  | wrongType (found : Found) (expected : String)
  /-- An integer outside the range of the expected type. -/
  | outOfRange (i : Int) (expected : String)
  | missing (field : String)
  | repeated (field : String)
  /-- A list that stands for a record ends too early or too late. -/
  | wrongLength (length : Nat) (expected : String)
  /-- Something follows the last element of a record. -/
  | surplus
  | unknownName (name : UnknownName)
  /-- An integer that no value holds. -/
  | wide
  /-- A number that no type of its kind holds. -/
  | overflow (kind : NumberKind)
  | unreadable
deriving DecidableEq, Repr

/-- The text that reports the cause, with numbers in the given format. -/
def Cause.message (format : RealFormat) : Cause → String
  | wrongType found expected =>
    "invalid type: " ++ found.describe format ++ ", expected " ++ expected
  | outOfRange i expected => "invalid value: integer `" ++ toString i ++ "`, expected " ++ expected
  | missing field => "missing field `" ++ field ++ "`"
  | repeated field => "duplicate field `" ++ field ++ "`"
  | wrongLength length expected => "invalid length " ++ toString length ++ ", expected " ++ expected
  | surplus => "trailing characters"
  | unknownName name => name.message
  | wide => "JSON number out of range"
  | overflow .integer => "integer number overflowed"
  | overflow .real => "floating-point number overflowed"
  | unreadable => "unreadable value"

structure Fault where
  cause : Cause
  /-- The place of what is at fault. -/
  span : Span
  /-- How far the text was read. -/
  reached : Nat
deriving DecidableEq, Repr

def Node.fault (n : Node) (cause : Cause) : Fault := ⟨cause, n.span, n.reached⟩

/-- Why a scalar is refused that holds nothing. -/
def Scalar.refusal : Scalar → Cause
  | .wide => .wide
  | .overflow kind => .overflow kind
  | _ => .unreadable

def Scalar.fault (content : Scalar) (span : Span) : Fault :=
  (Node.scalar span content).fault content.refusal

def Node.mismatch (n : Node) (expected : String) : Fault :=
  match n.found, n with
  | some found, _ => n.fault (.wrongType found expected)
  | none, .scalar span content => content.fault span
  | none, _ => n.fault .unreadable

/-- A fault that is noticed only when all of a value is read. -/
def Node.faultAtEnd (n : Node) (cause : Cause) : Fault := ⟨cause, n.span, n.span.stop⟩

/-- A fault of an entry's key in a table. -/
def Node.faultAtKey (n : Node) (key : Key) (cause : Cause) : Fault := ⟨cause, n.span, key.reached⟩

end SchemaCodegen.Document
