import SchemaCodegen.Emission.Error
import SchemaCodegen.Layout.Printer
import SchemaCodegen.Naming.Basic
import SchemaCodegen.Vocabulary.Engine

/-!
# Emitters

An emitter turns the column stream of a table into the source of one unit. There are two ways to
read the stream. Declarations and schemas take up one column after the other, as it is pulled;
mappers drain the stream before they write. Either way a violation anywhere in the stream leaves
no source behind.
-/

namespace SchemaCodegen

/-- What an emitter knows about its unit besides the columns. -/
structure Context where
  /-- The table as requested. -/
  table : String
  /-- The name of the generated type. -/
  typeName : String
  engine : Engine
deriving DecidableEq, Repr

def Context.of (table : String) (engine : Engine) (affixes : Naming.Affixes) : Context :=
  ⟨table, Naming.typeName affixes table, engine⟩

/-- What a stream gives, a failure reported for the context's table. -/
def Context.report {β : Type} (context : Context) : Except StreamError β → Except GenerationError β
  | .ok given => .ok given
  | .error cause => .error (.stream context.table cause)

/-- All columns that are left of a stream, failures reported for the context's table. -/
def Context.drainStream (context : Context) (stream : OrderedStream) :
    Except GenerationError (List Column) :=
  context.report stream.drain

def Context.drain (context : Context) (items : List StreamItem) :
    Except GenerationError (List Column) :=
  context.drainStream (.start items)

/-- The answers to a number of pulls on a stream, failures reported for the context's table. -/
def Context.pulls (context : Context) (count : Nat) (items : List StreamItem) :
    List (Option (Except GenerationError Column)) :=
  ((OrderedStream.start items).pulls count).map fun answer => answer.map context.report

/-- Pulls a stream to its end, and lets `take` add each column to what is built so far. The first
failure discards what is built. -/
def Context.pullInto {β : Type} (context : Context) (take : β → Column → β) (built : β)
    (stream : OrderedStream) : Except GenerationError β :=
  match _h : stream.next with
  | (none, _) => .ok built
  | (some item, later) =>
    match context.report item with
    | .ok column => context.pullInto take (take built column) later
    | .error failure => .error failure
termination_by stream.rest.length
decreasing_by exact OrderedStream.rest_length_lt _h

structure Emitter (α : Type) where
  style : Style
  options : FlagTable α
  /-- The source of a column stream under decoded options. -/
  emit : Context → α → OrderedStream → Except GenerationError String

namespace Emitter

variable {α : Type}

/-- The options of a value, faults reported for the emitter's style. -/
def decode (e : Emitter α) (payload : Document.Value) : Except GenerationError α :=
  match e.options.decode payload with
  | .ok options => .ok options
  | .error fault => .error (.invalidOptions e.style fault)

/-- Decodes the options, then emits the source of the items in order. -/
def generate (e : Emitter α) (context : Context) (payload : Document.Value)
    (items : List StreamItem) : Except GenerationError String :=
  match e.decode payload with
  | .ok options => e.emit context options (.start items)
  | .error failure => .error failure

end Emitter

end SchemaCodegen
