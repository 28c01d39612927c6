import SchemaCodegen.Proofs.Column.Violation
import SchemaCodegen.Proofs.Emission.Consumption
import SchemaCodegen.Proofs.Mapper.Fragments

/-!
# The source of a unit

What each emitter has built after the last pull, written at once over all
columns, and from it the source of a configured target as the print of one list
of fragments. Generating is draining the stream and printing these fragments;
statements about the text of units start from here, and statements about
failures from the first violation of the stream.
-/

namespace SchemaCodegen

/-! ## Declarations with all their columns -/

namespace Java

def classDecl (context : Context) (o : JavaDtoOptions) (columns : List Column) : ClassDecl :=
  { classStart context o with
    fields := columns.map (columnField context.engine o.swaggerAnnotations o.jacksonAnnotations) }

def recordDecl (context : Context) (o : JavaRecordOptions) (columns : List Column) : RecordDecl :=
  { recordStart context o with
    components :=
      columns.map (columnField context.engine o.swaggerAnnotations o.jacksonAnnotations) }

theorem foldl_takeField (context : Context) (o : JavaDtoOptions) (columns : List Column) :
    columns.foldl (takeField context o) (classStart context o) = classDecl context o columns :=
  foldl_append_entry (fun fields => { classStart context o with fields := fields })
    (columnField context.engine o.swaggerAnnotations o.jacksonAnnotations) (fun _ _ => rfl) []
    columns

theorem foldl_takeComponent (context : Context) (o : JavaRecordOptions) (columns : List Column) :
    columns.foldl (takeComponent context o) (recordStart context o) =
      recordDecl context o columns :=
  foldl_append_entry (fun components => { recordStart context o with components := components })
    (columnField context.engine o.swaggerAnnotations o.jacksonAnnotations) (fun _ _ => rfl) []
    columns

end Java

namespace CSharp

def classDecl (context : Context) (o : CSharpDtoOptions) (columns : List Column) : TypeDecl :=
  { classStart context o with members := columns.map (classMember context.engine o) }

def recordDecl (context : Context) (o : CSharpRecordOptions) (columns : List Column) : TypeDecl :=
  { (recordStart context o).body with members := columns.map (recordMember context.engine o) }

def positionalRecord (context : Context) (o : CSharpRecordOptions) (columns : List Column) :
    PositionalRecord :=
  { (recordStart context o).positional with
    parameters := columns.map (recordParameter context.engine o) }

theorem foldl_takeMember (context : Context) (o : CSharpDtoOptions) (columns : List Column) :
    columns.foldl (takeMember context o) (classStart context o) = classDecl context o columns :=
  foldl_append_entry (fun members => { classStart context o with members := members })
    (classMember context.engine o) (fun _ _ => rfl) [] columns

def holdParameters (context : Context) (o : CSharpRecordOptions) (parameters : List Parameter) :
    RecordDraft :=
  { recordStart context o with
    positional := { (recordStart context o).positional with parameters := parameters } }

def holdMembers (context : Context) (o : CSharpRecordOptions) (members : List Member) :
    RecordDraft :=
  { recordStart context o with body := { (recordStart context o).body with members := members } }

/-- Only the form that the options choose takes up columns, and only that form
is printed. -/
theorem print_foldl_takeColumn (context : Context) (o : CSharpRecordOptions)
    (columns : List Column) :
    (columns.foldl (takeColumn context o) (recordStart context o)).print o =
      if o.positional then (positionalRecord context o columns).print
      else (recordDecl context o columns).print := by
  -- the form that is not chosen takes up nothing, and is dropped in the end
  by_cases h : o.positional = true
  · have hadd : ∀ parameters c, takeColumn context o (holdParameters context o parameters) c =
        holdParameters context o (parameters ++ [recordParameter context.engine o c]) := by
      intro parameters c
      rw [takeColumn, if_pos h]
      rfl
    have hfold := foldl_append_entry (holdParameters context o)
      (recordParameter context.engine o) hadd [] columns
    rw [if_pos h, RecordDraft.print, if_pos h]
    exact congrArg (·.positional.print) hfold
  · have hadd : ∀ members c, takeColumn context o (holdMembers context o members) c =
        holdMembers context o (members ++ [recordMember context.engine o c]) := by
      intro members c
      rw [takeColumn, if_neg h]
      rfl
    have hfold := foldl_append_entry (holdMembers context o)
      (recordMember context.engine o) hadd [] columns
    rw [if_neg h, RecordDraft.print, if_neg h]
    exact congrArg (·.body.print) hfold

end CSharp

namespace TypeScript

def objectDecl (kind : ObjectKind) (context : Context) (o : TypeScriptOptions)
    (columns : List Column) : ObjectDecl :=
  { objectStart kind context o with properties := columns.map (columnProperty context.engine o) }

theorem foldl_takeProperty (kind : ObjectKind) (context : Context) (o : TypeScriptOptions)
    (columns : List Column) :
    columns.foldl (takeProperty context o) (objectStart kind context o) =
      objectDecl kind context o columns :=
  foldl_append_entry
    (fun properties => { objectStart kind context o with properties := properties })
    (columnProperty context.engine o) (fun _ _ => rfl) [] columns

end TypeScript

namespace Zod

def schemaFragments (context : Context) (o : ZodOptions) (columns : List Column) : List Fragment :=
  .block (schemaHeader context.typeName)
      (columns.map fun c => .line (fieldLine context.engine o c)) (some "\x7d).strict();") ::
    if o.exportAllTypes then [.blank, .line (inferredAlias context.typeName)] else []

/-- The printer stands inside the open block of the schema, and prints one line
per column there. -/
theorem foldl_takeField (context : Context) (o : ZodOptions) (columns : List Column) :
    columns.foldl (takeField context o) (schemaStart context) =
      (schemaStart context).emit (columns.map fun c => .line (fieldLine context.engine o c)) :=
  foldl_append_entry (fun lines => (schemaStart context).emit lines)
    (fun c => Fragment.line (fieldLine context.engine o c))
    (fun lines c => by rw [Printer.emit_append]; rfl) [] columns

theorem schemaEnd_foldl_takeField (context : Context) (o : ZodOptions) (columns : List Column) :
    (schemaEnd context o (columns.foldl (takeField context o) (schemaStart context))).text =
      Fragment.print .two (schemaFragments context o columns) := by
  rw [foldl_takeField]
  by_cases h : o.exportAllTypes = true
  · simp only [schemaEnd, schemaFragments, h, if_true, Fragment.print, Printer.emit,
      Printer.emitOne, schemaStart]
  · simp only [schemaEnd, schemaFragments, h, if_false, Fragment.print, Printer.emit,
      Printer.emitOne, schemaStart, Bool.false_eq_true]

end Zod

/-! ## Configured targets -/

namespace Configured

def indent : Configured → Indent
  | .typescript .. | .typescriptZod _ => .two
  | _ => .four

/-- The unit of a table as fragments. -/
def fragments (c : Configured) (context : Context) (columns : List Column) : List Fragment :=
  match c with
  | .javaDto o => (Java.classDecl context o columns).fragments
  | .javaRecord o => (Java.recordDecl context o columns).fragments
  | .javaMapperXml o => Mapper.documentFragments context o columns
  | .javaMapperInterface o => Mapper.interfaceFragments context o columns
  | .csharpDto o => (CSharp.classDecl context o columns).fragments
  | .csharpRecord o =>
    if o.positional then (CSharp.positionalRecord context o columns).fragments
    else (CSharp.recordDecl context o columns).fragments
  | .typescript kind o =>
    (TypeScript.objectDecl kind context o columns).fragments ++
      TypeScript.aliasLines o context.typeName
  | .typescriptZod o => Zod.schemaFragments context o columns

def source (c : Configured) (context : Context) (columns : List Column) : String :=
  Fragment.print c.indent (c.fragments context columns)

/-- What an emitter that pulls has printed is the source over the drained columns, if the print
of its final state is. -/
theorem pullInto_map_print {β : Type} {c : Configured} {context : Context}
    {take : β → Column → β} {built : β} {print : β → String}
    (h : ∀ columns : List Column, print (columns.foldl take built) = c.source context columns)
    (items : List StreamItem) :
    (context.pullInto take built (.start items)).map print =
      (context.drain items).map (c.source context) := by
  rw [pullInto_start]
  cases context.drain items with
  | error failure => rfl
  | ok columns => exact congrArg Except.ok (h columns)

/-- The same for an emitter that drains the stream before it prints. -/
theorem drain_map_print {c : Configured} {context : Context} {print : List Column → String}
    (h : ∀ columns : List Column, print columns = c.source context columns)
    (items : List StreamItem) :
    (context.drainStream (.start items)).map print =
      (context.drain items).map (c.source context) :=
  congrArg (fun print => (context.drain items).map print) (funext h)

/-- **Every target prints its source over the drained columns**, whether its
emitter pulls or drains. -/
theorem generate_eq (c : Configured) (context : Context) (items : List StreamItem) :
    c.generate context items = (context.drain items).map (c.source context) := by
  cases c with
  | javaDto o =>
      refine pullInto_map_print (c := .javaDto o) ?_ items
      intro columns
      exact congrArg Java.ClassDecl.print (Java.foldl_takeField context o columns)
  | javaRecord o =>
      refine pullInto_map_print (c := .javaRecord o) ?_ items
      intro columns
      exact congrArg Java.RecordDecl.print (Java.foldl_takeComponent context o columns)
  | javaMapperXml o =>
      apply drain_map_print (c := .javaMapperXml o)
      exact Mapper.text_printDocument context o
  | javaMapperInterface o =>
      apply drain_map_print (c := .javaMapperInterface o)
      exact Mapper.text_printInterface context o
  | csharpDto o =>
      refine pullInto_map_print (c := .csharpDto o) ?_ items
      intro columns
      exact congrArg CSharp.TypeDecl.print (CSharp.foldl_takeMember context o columns)
  | csharpRecord o =>
      refine pullInto_map_print (c := .csharpRecord o) ?_ items
      intro columns
      rw [CSharp.print_foldl_takeColumn, source, fragments]
      split <;> rfl
  | typescript kind o =>
      refine pullInto_map_print (c := .typescript kind o) ?_ items
      intro columns
      exact congrArg (TypeScript.printWithAliases o)
        (TypeScript.foldl_takeProperty kind context o columns)
  | typescriptZod o =>
      refine pullInto_map_print (c := .typescriptZod o) ?_ items
      intro columns
      exact Zod.schemaEnd_foldl_takeField context o columns

/-- A stream with a violation fails with the fault of the first one. -/
theorem generate_of_first (c : Configured) (context : Context) {items : List StreamItem} {k : Nat}
    {cause : StreamError} (h : FirstViolation items k cause) :
    c.generate context items = .error (.stream context.table cause) := by
  rw [generate_eq, context.drain_eq, collectOrdered_of_first h]
  rfl

/-- A stream without a violation yields a source. -/
theorem exists_generate_eq_ok (c : Configured) (context : Context) {items : List StreamItem}
    (h : ∀ k, violationAt items k = none) : ∃ source, c.generate context items = .ok source := by
  obtain ⟨columns, hread⟩ := exists_collectOrdered_eq_ok_iff.mpr h
  refine ⟨c.source context columns, ?_⟩
  rw [generate_eq, context.drain_eq, hread]
  rfl

/-- Columns in ascending order yield their source. -/
theorem generate_of_ascending (c : Configured) (context : Context) {columns : List Column}
    (h : Ascending columns) :
    c.generate context (columns.map .ok) = .ok (c.source context columns) := by
  rw [generate_eq, context.drain_eq, collectOrdered_map_ok h]
  rfl

/-- What is generated is the source of columns in ascending order. -/
theorem generate_eq_ok_iff_source (c : Configured) (context : Context) {items : List StreamItem}
    {source : String} :
    c.generate context items = .ok source ↔
      ∃ columns, items = columns.map .ok ∧ Ascending columns ∧
        source = c.source context columns := by
  constructor
  · intro h
    rw [generate_eq, context.drain_eq] at h
    cases hread : collectOrdered items with
    | error cause =>
        rw [hread] at h
        cases h
    | ok columns =>
        rw [hread] at h
        obtain ⟨hitems, hascending⟩ := eq_map_ok_of_collect hread
        exact ⟨columns, hitems, hascending, (Except.ok.inj h).symm⟩
  · rintro ⟨columns, rfl, hascending, rfl⟩
    exact generate_of_ascending c context hascending

end Configured

end SchemaCodegen
