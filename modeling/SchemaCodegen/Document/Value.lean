import SchemaCodegen.Number.RealText
import SchemaCodegen.Text.Quoted

/-!
# Document values

The values of JSON and TOML documents, without places in a text. Objects hold each key once and
list their entries in increasing order of the keys, so that equal objects are equal values.
A description names what stands where something else was expected.
-/

namespace SchemaCodegen.Document

open SchemaCodegen.Number

inductive Value where
  | null
  | bool (b : Bool)
  | int (i : Int)
  | real (x : Binary64)
  | text (s : String)
  | list (items : List Value)
  | object (entries : List (String × Value))
deriving Repr, Inhabited

/-- Puts an entry at its place among entries in increasing order of keys. An entry of the same
key is replaced. -/
def insertEntry {α : Type} (key : String) (value : α) : List (String × α) → List (String × α)
  | [] => [(key, value)]
  | (k, v) :: rest =>
    if key < k then (key, value) :: (k, v) :: rest
    else if key = k then (key, value) :: rest
    else (k, v) :: insertEntry key value rest

/-- Entries in increasing order of keys; the last of several entries of one key counts. -/
def sortEntries {α : Type} (entries : List (String × α)) : List (String × α) :=
  entries.foldl (fun sorted entry => insertEntry entry.1 entry.2 sorted) []

/-- What was found in place of an expected value. -/
inductive Found where
  | null
  | bool (b : Bool)
  | int (i : Int)
  | real (x : Binary64)
  | text (s : String)
  | sequence
  | map
deriving DecidableEq, Repr

/-- The description in a message, with numbers written in the given format. -/
def Found.describe (format : RealFormat) : Found → String
  | .null => "null"
  | .bool true => "boolean `true`"
  | .bool false => "boolean `false`"
  | .int i => "integer `" ++ toString i ++ "`"
  | .real x => "floating point `" ++ realText format x ++ "`"
  | .text s => "string " ++ Text.quoted s
  | .sequence => "sequence"
  | .map => "map"

def Value.found : Value → Found
  | .null => .null
  | .bool b => .bool b
  | .int i => .int i
  | .real x => .real x
  | .text s => .text s
  | .list _ => .sequence
  | .object _ => .map

/-- The kind of a value, with its article. -/
def Value.kind : Value → String
  | .null => "null"
  | .bool _ => "a boolean"
  | .int _ | .real _ => "a number"
  | .text _ => "a string"
  | .list _ => "an array"
  | .object _ => "an object"

end SchemaCodegen.Document
