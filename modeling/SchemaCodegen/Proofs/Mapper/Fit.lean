import SchemaCodegen.Proofs.Declaration.Lines
import SchemaCodegen.Proofs.Mapper.Forms
import SchemaCodegen.Proofs.Mapper.Parameters
import SchemaCodegen.Proofs.Mapper.Pieces
import SchemaCodegen.Proofs.Mapper.Wrapping
import SchemaCodegen.Proofs.Naming.Characters

/-!
# Mappers and the class of their parameters

Inserts, updates and deletes take an object of the class that the `dto` style
gives the table under the suffix `Dto`. The mapper and the class are written by
different emitters, each from the names of the table and of its columns. They
fit together: a mapper names the class as the class names itself, the fields of
its parameters are fields that the class declares, audit fields excepted, and a
parameter that stands by a column is the field of this very column.

Names must be free of the marks of a parameter. A column `#` with a brace behind
it would open a parameter of its own.
-/

namespace SchemaCodegen

/-! ## Names without marks -/

/-- The characters that parameters are marked with. -/
def parameterMarks : List Char := ['#', '\x7b', '\x7d']

/-- The text has none of the marks of a parameter. -/
def MarkFree (s : String) : Prop := ∀ mark ∈ parameterMarks, mark ∉ s.toList

instance (s : String) : Decidable (MarkFree s) :=
  List.decidableBAll (fun mark => mark ∉ s.toList) parameterMarks

theorem caseless_parameterMarks : ∀ mark ∈ parameterMarks, Text.Caseless mark := by
  have hsigns : parameterMarks ⊆ Text.separatingSigns := by decide
  exact fun mark hmark => Text.caseless_of_mem (hsigns hmark)

namespace MarkFree

theorem javaField {column : String} (h : MarkFree column) : MarkFree (Naming.javaField column) := by
  have hmarks : '_' ∉ parameterMarks := by decide
  intro mark hmark
  have hne : mark ≠ '_' := by
    rintro rfl
    exact hmarks hmark
  exact Naming.not_mem_javaField (caseless_parameterMarks mark hmark) hne (h mark hmark)

theorem pascal {table : String} (h : MarkFree table) : MarkFree (Naming.pascal table) := by
  intro mark hmark
  exact Naming.not_mem_pascal (caseless_parameterMarks mark hmark) (h mark hmark)

end MarkFree

namespace Mapper

/-! ## Columns bound to fields -/

/-- A column together with the field that carries its value. -/
structure Binding where
  column : String
  field : String
deriving DecidableEq, Repr

namespace Binding

def value (b : Binding) : String := parameter b.field

def equation (b : Binding) : String := Mapper.equation b.column b.field

end Binding

/-- The columns of a table, each with the field at its place. -/
def bindings (columns : List Column) (fields : List Java.Field) : List Binding :=
  List.zipWith (fun c field => ⟨c.name, field.name⟩) columns fields

def insertAuditBindings : List Binding :=
  [⟨"insert_ip", "insertIp"⟩, ⟨"insert_user_id", "insertUserId"⟩]

def updateAuditBindings : List Binding :=
  [⟨"update_ip", "updateIp"⟩, ⟨"update_user_id", "updateUserId"⟩]

def auditFields : List String := ["insertIp", "insertUserId", "updateIp", "updateUserId"]

/-- The lines are an insert that writes bound columns: the columns in one list, and the value of
each at the same place of the other. -/
def InsertsOver (table : String) (written : List Binding) (lines : List String) : Prop :=
  let bound := written ++ insertAuditBindings
  Inserts table (bound.map Binding.column ++ ["insert_dtm"])
    (bound.map Binding.value ++ ["CURRENT_TIMESTAMP(6)"]) lines

/-- The lines are an update that writes bound columns where bound keys agree. -/
def UpdatesOver (table : String) (written keys : List Binding) (lines : List String) : Prop :=
  Updates table
    ((written ++ updateAuditBindings).map Binding.equation ++ ["update_dtm = CURRENT_TIMESTAMP(6)"])
    (keys.map Binding.equation) lines

/-- The lines are a delete where bound keys agree. -/
def DeletesOver (table : String) (keys : List Binding) (lines : List String) : Prop :=
  Deletes table (keys.map Binding.equation) lines

/-- The column bound to its Java field. -/
def bind (c : Column) : Binding := ⟨c.name, Naming.javaField c.name⟩

theorem bindings_classDecl (context : Context) (o : JavaDtoOptions) (columns : List Column) :
    bindings columns (Java.classDecl context o columns).fields = columns.map bind := by
  rw [bindings, Java.classDecl, List.zipWith_map_right, List.zipWith_self]
  rfl

theorem insertColumns_eq (sets : ColumnSets) :
    insertColumns sets =
      (sets.insertable.map bind ++ insertAuditBindings).map Binding.column ++ ["insert_dtm"] := by
  simp [insertColumns, insertAudit, insertAuditBindings, bind]

theorem insertValues_eq (sets : ColumnSets) :
    insertValues sets =
      (sets.insertable.map bind ++ insertAuditBindings).map Binding.value ++
        ["CURRENT_TIMESTAMP(6)"] := by
  simp [insertValues, insertAudit, insertAuditBindings, bind, placeholder, Binding.value]

theorem assignments_eq (sets : ColumnSets) :
    assignments sets =
      (sets.insertable.map bind ++ updateAuditBindings).map Binding.equation ++
        ["update_dtm = CURRENT_TIMESTAMP(6)"] := by
  have haudit : updateAudit.map (fun v => v.1 ++ " = " ++ v.2) =
      updateAuditBindings.map Binding.equation ++ ["update_dtm = CURRENT_TIMESTAMP(6)"] := rfl
  rw [assignments, haudit, List.map_append, List.map_map, List.append_assoc]
  congr 1
  apply List.map_congr_left
  intro c _
  exact append_placeholder c.name c

theorem keyConditions_eq (keys : List Column) :
    keyConditions keys = (keys.map bind).map Binding.equation := by
  rw [keyConditions, List.map_map]
  rfl

theorem insertsOver_sql (table : String) (sets : ColumnSets) :
    InsertsOver table (sets.insertable.map bind) (Statement.insert.sql table sets) := by
  have hlists := inserts_sql table sets
  rwa [insertColumns_eq, insertValues_eq] at hlists

theorem updatesOver_sql (table : String) (sets : ColumnSets) :
    UpdatesOver table (sets.insertable.map bind) (sets.keys.map bind)
      (Statement.update.sql table sets) := by
  have hlist := updates_sql table sets
  rwa [assignments_eq, keyConditions_eq] at hlist

theorem deletesOver_sql (table : String) (sets : ColumnSets) :
    DeletesOver table (sets.keys.map bind) (Statement.delete.sql table sets) := by
  have hconditions := deletes_sql table sets
  rwa [keyConditions_eq] at hconditions

/-! ## Fields of a mapper's parameters -/

section Fields

variable {table : String} {columns : List Column} {allowed : String → Prop}
  (htable : MarkFree table) (hcolumns : ∀ c ∈ columns, MarkFree c.name)
  (haudit : ∀ field ∈ auditFields, allowed field)
  (hdeclared : ∀ c ∈ columns, allowed (Naming.javaField c.name))
include htable

theorem fieldsIn_tag (s : Statement) : FieldsIn allowed (Entry.of table columns s).tag := by
  have hentity : '#' ∉ (entity table).toList := htable.pascal '#' (by decide)
  apply FieldsIn.of_free
  cases s <;>
    simp [Entry.tag, Entry.classAttribute, Entry.of, Statement.id, Statement.verb, responseClass,
      parameterClass, hentity]

theorem fieldsIn_signature (s : Statement) :
    FieldsIn allowed (Entry.of table columns s).signature := by
  have hentity : '#' ∉ (entity table).toList := htable.pascal '#' (by decide)
  apply FieldsIn.of_free
  cases s <;>
    simp [Entry.signature, Entry.of, Statement.id, Statement.verb, responseClass, parameterClass,
      hentity]

include hcolumns haudit hdeclared

/-- The pieces of statements have no parameters but those of columns and of audit columns. -/
theorem composes_fieldsIn : Composes (FieldsIn allowed) table columns where
  append := FieldsIn.append
  fixed s hs := by
    have hfree : ∀ s ∈ fixedTexts, '#' ∉ s.toList := by decide
    exact FieldsIn.of_free (hfree s hs)
  table := FieldsIn.of_free (htable '#' (by decide))
  name c hc := FieldsIn.of_free (hcolumns c hc '#' (by decide))
  value c hc := by
    have hfield := (hcolumns c hc).javaField
    exact FieldsIn.parameter (hfield '#' (by decide)) (hfield '\x7d' (by decide)) (hdeclared c hc)
  audit v hv := by
    have hname : ∀ v ∈ insertAudit ++ updateAudit, '#' ∉ v.1.toList := by decide
    have hvalue : ∀ v ∈ insertAudit ++ updateAudit,
        '#' ∉ v.2.toList ∨ ∃ field ∈ auditFields, v.2 = parameter field := by decide
    have hmarks : ∀ field ∈ auditFields, '#' ∉ field.toList ∧ '\x7d' ∉ field.toList := by decide
    refine ⟨FieldsIn.of_free (hname v hv), ?_⟩
    rcases hvalue v hv with hfree | ⟨field, hfield, heq⟩
    · exact FieldsIn.of_free hfree
    · obtain ⟨hopen, hclosed⟩ := hmarks field hfield
      rw [heq]
      exact FieldsIn.parameter hopen hclosed (haudit field hfield)

theorem fieldsIn_sql (s : Statement) :
    ∀ line ∈ (Entry.of table columns s).sql, FieldsIn allowed line := by
  have hpieces := composes_fieldsIn htable hcolumns haudit hdeclared
  have hinsert : ∀ s ∈ insertTexts, FieldsIn allowed s := by
    have hfree : ∀ s ∈ insertTexts, '#' ∉ s.toList := by decide
    intro s hs
    exact FieldsIn.of_free (hfree s hs)
  have hlines : ∀ line ∈ s.sql table (ColumnSets.of columns), FieldsIn allowed line := by
    cases s with
    | select => exact hpieces.select
    | insert => exact hpieces.insert hinsert
    | update => exact hpieces.update
    | delete => exact hpieces.delete
  intro line hline
  obtain ⟨text, htext, rfl⟩ := List.mem_map.mp hline
  exact (FieldsIn.of_free (by decide)).append (hlines text htext)

theorem fieldsIn_element (s : Statement) :
    ∀ line ∈ (Entry.of table columns s).element, FieldsIn allowed line := by
  have hend : ∀ s : Statement, '#' ∉ ("    </" ++ s.verb ++ ">").toList := by
    intro s
    cases s <;> decide
  intro line hline
  rw [Entry.element, List.mem_cons, List.mem_append, List.mem_singleton] at hline
  rcases hline with rfl | hline | rfl
  · exact (FieldsIn.of_free (by decide)).append (fieldsIn_tag htable s)
  · exact fieldsIn_sql htable hcolumns haudit hdeclared s line hline
  · exact FieldsIn.of_free (hend s)

theorem fieldsIn_method (s : Statement) :
    ∀ line ∈ (Entry.of table columns s).method, FieldsIn allowed line := by
  have hstart : ∀ s : Statement,
      '#' ∉ ("    @" ++ statementAnnotation s ++ "(\"\"\"").toList := by
    intro s
    cases s <;> decide
  intro line hline
  rw [Entry.method, List.mem_cons, List.mem_append, List.mem_cons, List.mem_singleton] at hline
  rcases hline with rfl | hline | rfl | rfl
  · exact FieldsIn.of_free (hstart s)
  · exact fieldsIn_sql htable hcolumns haudit hdeclared s line hline
  · exact FieldsIn.of_free (by decide)
  · exact (FieldsIn.of_free (by decide)).append (fieldsIn_signature htable s)

omit htable hcolumns haudit hdeclared in
/-- Entries apart keep what holds of their lines. -/
theorem fieldsIn_apart {body : Entry → List String} (o : MapperOptions)
    (hbody : ∀ s, ∀ line ∈ body (Entry.of table columns s), FieldsIn allowed line) :
    ∀ line ∈ [""].intercalate ((entries table columns o).map body), FieldsIn allowed line := by
  intro line hline
  rcases mem_of_mem_intercalate hline with hblank | ⟨lines, hlines, hmem⟩
  · rw [List.mem_singleton.mp hblank]
    exact FieldsIn.of_free (by decide)
  · obtain ⟨e, he, rfl⟩ := List.mem_map.mp hlines
    obtain ⟨s, -, rfl⟩ := List.mem_map.mp he
    exact hbody s line hmem

theorem fieldsIn_documentLines (o : MapperOptions) :
    FieldsIn allowed (unlines (documentLines table (entries table columns o))) := by
  have hbody := fieldsIn_apart o (fieldsIn_element htable hcolumns haudit hdeclared)
  have hentity : '#' ∉ (entity table).toList := htable.pascal '#' (by decide)
  apply FieldsIn.unlines
  intro line hline
  rw [documentLines, List.mem_cons, List.mem_append, List.mem_singleton] at hline
  rcases hline with rfl | hline | rfl
  · apply FieldsIn.of_free
    simp [repositoryClass, hentity]
  · exact hbody line hline
  · exact FieldsIn.of_free (by decide)

theorem fieldsIn_interfaceLines (o : MapperOptions) :
    FieldsIn allowed (unlines (interfaceLines table (entries table columns o))) := by
  have hbody := fieldsIn_apart o (fieldsIn_method htable hcolumns haudit hdeclared)
  have hentity : '#' ∉ (entity table).toList := htable.pascal '#' (by decide)
  apply FieldsIn.unlines
  intro line hline
  rw [interfaceLines, List.mem_cons, List.mem_cons, List.mem_cons, List.mem_cons,
    List.mem_append, List.mem_singleton] at hline
  rcases hline with rfl | rfl | rfl | rfl | hline | rfl
  · exact FieldsIn.of_free (by decide)
  · exact FieldsIn.of_free (by decide)
  · exact FieldsIn.of_free (by decide)
  · apply FieldsIn.of_free
    simp [repositoryClass, hentity]
  · exact hbody line hline
  · exact FieldsIn.of_free (by decide)

end Fields

/-! ## The fit -/

/-- Columns are written and compared by the fields that bindings give them: by a column, or at its
place, stands the parameter of its field. -/
def BoundBy (table : String) (given : List Binding) (shared : List Entry) : Prop :=
  ∃ written keys : List Binding, written.Sublist given ∧ keys.Sublist given ∧
    ∀ e ∈ shared, ∃ lines, e.sql = lines.map ("        " ++ ·) ∧
      (e.statement = .insert → InsertsOver table written lines) ∧
      (e.statement = .update → UpdatesOver table written keys lines) ∧
      (e.statement = .delete → DeletesOver table keys lines)

/-- How the mappers over some entries fit a class. -/
structure Fits (table : String) (columns : List Column) (decl : Java.ClassDecl)
    (shared : List Entry) : Prop where
  /-- Every column has its field. -/
  complete : decl.fields.length = columns.length
  /-- The class as it is printed has a line that declares the field. -/
  declared : ∃ lines, decl.print = unlines lines ∧ ∀ field ∈ decl.fields,
    "    private " ++ field.type ++ " " ++ field.name ++ ";" ∈ lines
  /-- Every statement but a select names the class. -/
  carrier : ∀ e ∈ shared, e.statement ≠ .select → e.carrier = decl.name
  /-- The parameter by a column is the one of this column's field. -/
  bound : BoundBy table (bindings columns decl.fields) shared
  /-- Wherever a parameter occurs, its field is one of an audit column or of the class. -/
  occurring : ∀ lines ∈ [documentLines table shared, interfaceLines table shared],
    ∀ before field after : String, unlines lines = before ++ parameter field ++ after →
      '\x7d' ∉ field.toList →
      field ∈ auditFields ∨ ∃ b ∈ bindings columns decl.fields, b.field = field

theorem boundBy_entries (table : String) (columns : List Column) (o : MapperOptions) :
    BoundBy table (columns.map bind) (entries table columns o) := by
  refine ⟨(ColumnSets.of columns).insertable.map bind, (ColumnSets.of columns).keys.map bind,
    List.filter_sublist.map bind, List.filter_sublist.map bind, ?_⟩
  intro e he
  obtain ⟨s, -, rfl⟩ := List.mem_map.mp he
  refine ⟨s.sql table (ColumnSets.of columns), rfl, ?_, ?_, ?_⟩
  · rintro (rfl : s = .insert)
    exact insertsOver_sql table _
  · rintro (rfl : s = .update)
    exact updatesOver_sql table _
  · rintro (rfl : s = .delete)
    exact deletesOver_sql table _

/-- The entries of a mapper fit the class that the table has under the suffix `Dto`. -/
theorem fits_entries {table : String} {columns : List Column} (engine : Engine)
    (d : JavaDtoOptions) (htable : MarkFree table) (hcolumns : ∀ c ∈ columns, MarkFree c.name)
    (o : MapperOptions) :
    Fits table columns (Java.classDecl (.of table engine ⟨"", "Dto"⟩) d columns)
      (entries table columns o) where
  complete := List.length_map _
  declared := by
    refine ⟨_, Fragment.print_eq_unlines _ _, ?_⟩
    intro field hfield
    exact Java.ClassDecl.line_mem hfield
  carrier := by
    intro e he hne
    obtain ⟨s, -, rfl⟩ := List.mem_map.mp he
    have hname : (Java.classDecl (.of table engine ⟨"", "Dto"⟩) d columns).name =
        parameterClass table := by
      show "" ++ Naming.pascal table ++ "Dto" = _
      rw [String.empty_append]
      rfl
    rw [hname]
    cases s with
    | select => exact absurd rfl hne
    | insert | update | delete => rfl
  bound := by
    rw [bindings_classDecl]
    exact boundBy_entries table columns o
  occurring := by
    rw [bindings_classDecl]
    have hdeclared : ∀ c ∈ columns, Naming.javaField c.name ∈ auditFields ∨
        ∃ b ∈ columns.map bind, b.field = Naming.javaField c.name := by
      intro c hc
      exact .inr ⟨bind c, List.mem_map_of_mem hc, rfl⟩
    have haudit : ∀ field ∈ auditFields, field ∈ auditFields ∨
        ∃ b ∈ columns.map bind, b.field = field := by
      intro field hfield
      exact .inl hfield
    -- a parameter that occurs is one that the printers open, as names have no number signs
    intro lines hlines before field after heq hclosed
    rw [List.mem_cons, List.mem_singleton] at hlines
    rcases hlines with rfl | rfl
    · exact (fieldsIn_documentLines htable hcolumns haudit hdeclared o).allowed_of_eq heq hclosed
    · exact (fieldsIn_interfaceLines htable hcolumns haudit hdeclared o).allowed_of_eq heq hclosed

end Mapper

namespace Configured

open Mapper

/-- **Mappers fit the class of their parameters**, whatever the engine, the options and the
affixes of the request for the mappers. -/
theorem mappers_fit_class {table : String} {columns : List Column} (engine : Engine)
    (affixes : Naming.Affixes) (o : MapperOptions) (d : JavaDtoOptions) (htable : MarkFree table)
    (hcolumns : ∀ c ∈ columns, MarkFree c.name) (hascending : Ascending columns) :
    let context := Context.of table engine affixes
    let classContext := Context.of table engine ⟨"", "Dto"⟩
    let decl := Java.classDecl classContext d columns
    ∃ shared : List Entry,
      (Configured.javaDto d).generate classContext (columns.map .ok) = .ok decl.print ∧
      (Configured.javaMapperXml o).generate context (columns.map .ok) =
        .ok (unlines (documentLines table shared)) ∧
      (Configured.javaMapperInterface o).generate context (columns.map .ok) =
        .ok (unlines (interfaceLines table shared)) ∧
      Fits table columns decl shared := by
  intro context classContext decl
  refine ⟨entries table columns o, ?_, ?_, ?_, fits_entries engine d htable hcolumns o⟩
  · rw [generate_of_ascending _ classContext hascending]
    rfl
  · rw [generate_of_ascending _ context hascending, source_mapperXml]
    rfl
  · rw [generate_of_ascending _ context hascending, source_mapperInterface]
    rfl

/-- A key, a reserved word and an audit column. -/
theorem reserved_word_fits_class :
    let columns := [(Column.new 1 "line_no" "int").asKey, Column.new 2 "class" "text",
      Column.new 3 "INSERT_DTM" "timestamp"]
    let o : MapperOptions := ⟨true, false, false, false, false⟩
    let d := JavaDtoOptions.table.unset
    let context := Context.of "order_line" .postgres .none
    let classContext := Context.of "order_line" .postgres ⟨"", "Dto"⟩
    let decl := Java.classDecl classContext d columns
    MarkFree "order_line" ∧ (∀ c ∈ columns, MarkFree c.name) ∧ Ascending columns ∧
      decl.name = "OrderLineDto" ∧
      decl.fields.map (·.name) = ["lineNo", "class_", "insertDtm"] ∧
      ∃ shared : List Entry,
        (Configured.javaDto d).generate classContext (columns.map .ok) = .ok decl.print ∧
        (Configured.javaMapperXml o).generate context (columns.map .ok) =
          .ok (unlines (documentLines "order_line" shared)) ∧
        (Configured.javaMapperInterface o).generate context (columns.map .ok) =
          .ok (unlines (interfaceLines "order_line" shared)) ∧
        Fits "order_line" columns decl shared := by
  intro columns o d context classContext decl
  have htable : MarkFree "order_line" := by decide
  have hcolumns : ∀ c ∈ columns, MarkFree c.name := by decide
  have hascending : Ascending columns := by decide
  have hname : decl.name = "OrderLineDto" := by decide +kernel
  have hfields : decl.fields.map (·.name) = ["lineNo", "class_", "insertDtm"] := by decide +kernel
  exact ⟨htable, hcolumns, hascending, hname, hfields,
    mappers_fit_class .postgres .none o d htable hcolumns hascending⟩

end Configured

end SchemaCodegen
