import SchemaCodegen.Document.Value
import SchemaCodegen.Text.Position

/-!
# Document trees

A document as it stands in its source text: every value knows its place, a table lists its entries
in the order of the text, and a key may occur more than once. Both formats are read into trees, and
requests, schema files and options are decoded from trees.

Some values are well placed but hold nothing that can be kept. A text with half of a surrogate pair
and a value nested too deeply are unreadable, which matters only to a reader that looks at them. An
integer of more than 64 bits may be passed over as well. A number too large for every type of its
kind may not, but is no fault as long as no reader comes to it.
-/

namespace SchemaCodegen.Document

open SchemaCodegen.Number SchemaCodegen.Text

inductive NumberKind where
  | integer
  | real
deriving DecidableEq, Repr, Inhabited

inductive Scalar where
  | null
  | bool (b : Bool)
  | int (i : Int)
  | real (x : Binary64)
  | text (s : String)
  /-- A date, a time or both, in its normal spelling. -/
  | moment (s : String)
  /-- An integer of more than 64 bits, and at most 128. -/
  | wide
  /-- A number that no type of its kind holds. -/
  | overflow (kind : NumberKind)
  | unreadable
deriving DecidableEq, Repr, Inhabited

structure Key where
  text : String
  span : Span
  /-- How far the text is read when the key and the blanks after it are. -/
  reached : Nat
deriving DecidableEq, Repr

inductive Node where
  | scalar (span : Span) (content : Scalar)
  | list (span : Span) (items : List Node)
  | table (span : Span) (entries : List (Key × Node))
deriving Repr, Inhabited

namespace Node

def span : Node → Span
  | scalar s _ | list s _ | table s _ => s

/-- How far the text is read when a value turns out to be of the wrong type: past a scalar, but
not into a list or a table. -/
def reached : Node → Nat
  | scalar s _ => s.stop
  | list s _ | table s _ => s.start

/-- What stands in place of an expected value. A moment counts as a table. -/
def found : Node → Option Found
  | scalar _ .null => some .null
  | scalar _ (.bool b) => some (.bool b)
  | scalar _ (.int i) => some (.int i)
  | scalar _ (.real x) => some (.real x)
  | scalar _ (.text s) => some (.text s)
  | scalar _ (.moment _) => some .map
  | scalar _ .wide | scalar _ (.overflow _) | scalar _ .unreadable => none
  | list _ _ => some .sequence
  | table _ _ => some .map

mutual

/-- Whether nothing in a value is unreadable. -/
def isReadable : Node → Bool
  | scalar _ content => content != .unreadable
  | list _ items => allReadable items
  | table _ entries => entriesReadable entries

def allReadable : List Node → Bool
  | [] => true
  | item :: rest => item.isReadable && allReadable rest

def entriesReadable : List (Key × Node) → Bool
  | [] => true
  | (_, value) :: rest => value.isReadable && entriesReadable rest

end

end Node

/-- The key under which a moment is kept once its place is forgotten. -/
def momentKey : String := "$__toml_private_datetime"

end SchemaCodegen.Document
