import SchemaCodegen.Document.Value

/-!
# Decoding options

The options of a style are boolean flags, all false unless set. They are decoded from a document
value: `null` sets none, and an object sets those among its keys that name a flag, in the order of
the keys. Keys that name no flag may hold anything.
-/

namespace SchemaCodegen

open Document

structure Flag (α : Type) where
  key : String
  get : α → Bool
  set : Bool → α → α

/-- The flags of an options type, and the options with every flag false. -/
structure FlagTable (α : Type) where
  unset : α
  flags : List (Flag α)

inductive OptionsFault where
  /-- The value is neither `null` nor an object. -/
  | notAnObject (kind : String)
  /-- A flag's value is not a boolean. -/
  | notABoolean (found : Found)
deriving DecidableEq, Repr

def OptionsFault.message : OptionsFault → String
  | .notAnObject kind => "expected an object, found " ++ kind
  | .notABoolean found =>
    "invalid type: " ++ found.describe .mixed ++ ", expected a boolean"

namespace FlagTable

def setEntry {α : Type} (t : FlagTable α) (options : α) (entry : String × Value) :
    Except OptionsFault α :=
  match t.flags.find? (·.key == entry.1), entry.2 with
  | none, _ => .ok options
  | some flag, .bool b => .ok (flag.set b options)
  | some _, other => .error (.notABoolean other.found)

/-- Sets the flags that entries name, from first to last. -/
def setEntries {α : Type} (t : FlagTable α) (options : α) :
    List (String × Value) → Except OptionsFault α
  | [] => .ok options
  | entry :: rest =>
    match t.setEntry options entry with
    | .ok set => t.setEntries set rest
    | .error fault => .error fault

def decode {α : Type} (t : FlagTable α) : Value → Except OptionsFault α
  | .null => .ok t.unset
  | .object entries => t.setEntries t.unset entries
  | other => .error (.notAnObject other.kind)

end FlagTable

end SchemaCodegen
