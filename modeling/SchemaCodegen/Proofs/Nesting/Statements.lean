import SchemaCodegen.Proofs.Mapper.Fragments
import SchemaCodegen.Proofs.Mapper.Pieces
import SchemaCodegen.Proofs.Nesting.Names

/-!
# Well-nested mappers

The lines of a statement are well nested one by one, except those of an insert:
its first line opens the list of columns, a line in the middle closes it and
opens the list of values, and its last line closes that. Around a statement
stands an element, whose tags close their own angle brackets, or an annotation,
whose parenthesis the last line of its text block closes.
-/

namespace SchemaCodegen.Mapper

/-! ## Names and parameters -/

theorem wellNested_placeholder {c : Column} (h : c.BracketFree) : WellNested (placeholder c) := by
  have hopen : Leaves [] "#\x7b" ['}'] := by decide
  exact (Naming.bracketFree_javaField h.name).wellNested.enclose hopen (by decide)

theorem wellNested_entity {table : String} (h : BracketFree table) : WellNested (entity table) :=
  (Naming.bracketFree_pascal h).wellNested

theorem wellNested_responseClass {table : String} (h : BracketFree table) :
    WellNested (responseClass table) :=
  (wellNested_entity h).append (by decide)

theorem wellNested_parameterClass {table : String} (h : BracketFree table) :
    WellNested (parameterClass table) :=
  (wellNested_entity h).append (by decide)

theorem wellNested_repositoryClass {table : String} (h : BracketFree table) :
    WellNested (repositoryClass table) :=
  (wellNested_entity h).append (by decide)

theorem wellNested_verb (s : Statement) : WellNested s.verb := by
  cases s <;> decide

theorem wellNested_id (s : Statement) {table : String} (h : BracketFree table) :
    WellNested (s.id (entity table)) :=
  (wellNested_verb s).append (wellNested_entity h)

/-! ## Lines of statements -/

theorem nested_lines {lines : List String} (h : ∀ s ∈ lines, WellNested s) :
    Fragment.Nested (lines.map .line) := by
  apply Fragment.nested_map
  intro s hs
  exact Fragment.nested_line (h s hs)

section Values

variable {columns : List Column} (h : ∀ c ∈ columns, c.BracketFree) {table : String}
  (htable : BracketFree table)
include h htable

/-- The pieces of statements are well nested. -/
theorem composes_wellNested : Composes WellNested table columns where
  append := WellNested.append
  fixed := by decide
  table := htable.wellNested
  name c hc := (h c hc).name.wellNested
  value c hc := wellNested_placeholder (h c hc)
  audit := by decide

/-- The lists of columns and of values are read while the closing parenthesis of each is due. -/
theorem nested_insertLines : Fragment.Nested (sqlLines table columns .insert) := by
  have hpieces := composes_wellNested h htable
  have hinto : WellNested ("INSERT INTO " ++ table) :=
    WellNested.append (by decide) htable.wellNested
  have hopen : Leaves [] " (" [')'] := by decide
  have hfirst : Fragment.Leaves [] [.line ("INSERT INTO " ++ table ++ " (")] [')'] :=
    Fragment.leaves_line (Leaves.append hinto hopen)
  have hturn : Fragment.Leaves [')'] [.line ") VALUES ("] [')'] :=
    Fragment.leaves_line (by decide)
  have hlast : Fragment.Leaves [')'] [.line ")"] [] := Fragment.leaves_line (by decide)
  have hnames : Fragment.Nested
      ((listLines (insertColumns (ColumnSets.of columns))).map .line) :=
    nested_lines (hpieces.listLines hpieces.insertColumns)
  have hvalues : Fragment.Nested
      ((listLines (insertValues (ColumnSets.of columns))).map .line) :=
    nested_lines (hpieces.listLines hpieces.insertValues)
  -- Each list stands between the line that opens its parenthesis and the one that closes it.
  have hopened := hfirst.append (hnames.leaves [')'])
  have hturned := hturn.append (hvalues.leaves [')'])
  have hall := (hopened.append hturned).append hlast
  rw [sqlLines, Statement.sql]
  simp only [List.map_append, List.map_cons, List.map_nil]
  exact hall

theorem nested_sqlLines (s : Statement) : Fragment.Nested (sqlLines table columns s) := by
  have hpieces := composes_wellNested h htable
  cases s with
  | select => exact nested_lines hpieces.select
  | insert => exact nested_insertLines h htable
  | update => exact nested_lines hpieces.update
  | delete => exact nested_lines hpieces.delete

/-! ## Elements and methods -/

omit h in
theorem wellNested_openTag (s : Statement) : WellNested (openTag table s) := by
  have hopen : Leaves [] "<" ['>'] := by decide
  have hverb : Leaves [] ("<" ++ s.verb) ['>'] := hopen.append ((wellNested_verb s).leaves _)
  have hid : Leaves [] ("<" ++ s.verb ++ " id=\"" ++ s.id (entity table) ++ "\" ") ['>'] := by
    have hattribute : WellNested " id=\"" := by decide
    exact ((hverb.append (hattribute.leaves _)).append
      ((wellNested_id s htable).leaves ['>'])).append (by decide)
  have hresult : WellNested ("resultType=\"" ++ responseClass table) :=
    WellNested.append (by decide) (wellNested_responseClass htable)
  have hparameter : WellNested ("parameterType=\"" ++ parameterClass table) :=
    WellNested.append (by decide) (wellNested_parameterClass htable)
  unfold openTag
  refine (hid.append (WellNested.leaves ?_ _)).append (by decide)
  cases s with
  | select => exact hresult
  | insert => exact hparameter
  | update => exact hparameter
  | delete => exact hparameter

theorem nested_statementElement (s : Statement) :
    Fragment.Nested (statementElement table columns s) := by
  have hclose : WellNested ("</" ++ s.verb ++ ">") := by
    cases s <;> decide
  exact Fragment.nested_block (wellNested_openTag htable s) (nested_sqlLines h htable s) hclose

omit h in
theorem wellNested_methodLine (s : Statement) : WellNested (methodLine table s) := by
  have hresponse := wellNested_responseClass htable
  have hid := wellNested_id s htable
  have hopen : Leaves [] "(" [')'] := by decide
  have hwrite : WellNested
      ("int " ++ s.id (entity table) ++ "(" ++ parameterClass table ++ " dto);") := by
    have hstart : Leaves [] ("int " ++ s.id (entity table) ++ "(") [')'] :=
      Leaves.append (WellNested.append (by decide) hid) hopen
    exact (wellNested_parameterClass htable).enclose hstart (by decide)
  cases s with
  | select =>
      have hstart : Leaves [] (responseClass table ++ " " ++
          Statement.select.id (entity table) ++ "(") [')'] :=
        Leaves.append ((hresponse.append (by decide)).append hid) hopen
      exact hresponse.enclose hstart (by decide)
  | insert => exact hwrite
  | update => exact hwrite
  | delete => exact hwrite

/-- The parenthesis of the annotation is due until the text block ends. -/
theorem nested_statementMethod (s : Statement) :
    Fragment.Nested (statementMethod table columns s) := by
  have hname : WellNested ("@" ++ statementAnnotation s) := by
    cases s <;> decide
  have hopen : Leaves [] "(\"\"\"" [')'] := by decide
  have hend : Fragment.Leaves [')'] [.line "\"\"\")"] [] := Fragment.leaves_line (by decide)
  have hannotation : Fragment.Nested
      [.block ("@" ++ statementAnnotation s ++ "(\"\"\"")
        (sqlLines table columns s ++ [.line "\"\"\")"]) none] :=
    Fragment.nested_openBlock (Leaves.append hname hopen)
      (((nested_sqlLines h htable s).leaves _).append hend)
  exact hannotation.append (Fragment.nested_line (wellNested_methodLine htable s))

end Values

/-! ## Units -/

section Units

variable {context : Context} (o : MapperOptions) {columns : List Column}
  (hcolumns : ∀ c ∈ columns, c.BracketFree) (htable : BracketFree context.table)
include hcolumns htable

theorem nested_documentFragments : Fragment.Nested (documentFragments context o columns) := by
  have hopen : Leaves [] "<mapper namespace=\"" ['>'] := by decide
  have hheader : WellNested ("<mapper namespace=\"" ++ repositoryClass context.table ++ "\">") :=
    (wellNested_repositoryClass htable).enclose hopen (by decide)
  have hclose : Leaves [] "</mapper>" [] := by decide
  apply Fragment.nested_block hheader _ hclose
  apply Fragment.nested_joinGroups_map
  intro s _
  exact nested_statementElement hcolumns htable s

theorem nested_interfaceFragments : Fragment.Nested (interfaceFragments context o columns) := by
  have himport : Fragment.Nested [.line "import org.apache.ibatis.annotations.*;"] :=
    Fragment.nested_line (by decide)
  have hmark : Fragment.Nested [.line Java.AnnotationTag.mapper.text] :=
    Fragment.nested_line (by decide)
  have hstart : WellNested ("public interface " ++ repositoryClass context.table) :=
    WellNested.append (by decide) (wellNested_repositoryClass htable)
  have hopen : Leaves [] " \x7b" ['}'] := by decide
  have hclose : Leaves ['}'] "\x7d" [] := by decide
  have hbody : Fragment.Nested (Fragment.joinGroups true
      (o.selected.map (statementMethod context.table columns))) := by
    apply Fragment.nested_joinGroups_map
    intro s _
    exact nested_statementMethod hcolumns htable s
  apply himport.append
  apply Fragment.nested_blank.append
  apply hmark.append
  exact Fragment.nested_block (Leaves.append hstart hopen) hbody hclose

end Units

end SchemaCodegen.Mapper
