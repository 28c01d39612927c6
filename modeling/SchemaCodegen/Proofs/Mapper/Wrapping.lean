import SchemaCodegen.Proofs.Emission.Source
import SchemaCodegen.Proofs.Layout.Lines

/-!
# The statements that two mappers wrap

A mapper document and a mapper interface are two loops with their own nesting:
one closes an element where the other ends a text block and adds a method. Here
both are written over the same list of entries. An entry is what a mapper holds
of a statement: its id, its class and its lines of SQL as they stand in the
source, indentation included. What a mapper adds around an entry is a function
of the entry alone, so that nothing of a table or of the options reaches one
mapper without reaching the other.
-/

namespace SchemaCodegen

/-- Whether the statement's own flag is set. -/
def MapperOptions.flagOf (o : MapperOptions) : Mapper.Statement → Bool
  | .select => o.select
  | .insert => o.insert
  | .update => o.update
  | .delete => o.delete

theorem MapperOptions.selected_eq (o : MapperOptions) :
    o.selected = Mapper.Statement.all.filter fun s => o.allCrud || o.flagOf s := by
  rw [selected]
  apply List.filter_congr
  intro s _
  cases s <;> rfl

namespace Mapper

/-! ## Entries -/

/-- What a mapper holds of a statement. -/
structure Entry where
  statement : Statement
  /-- The id of the element, and the name of the method. -/
  id : String
  /-- The class of a select's results, and of the parameters of every other statement. -/
  carrier : String
  /-- The lines of SQL as they stand in the source. -/
  sql : List String
deriving DecidableEq, Repr

namespace Entry

def of (table : String) (columns : List Column) (s : Statement) : Entry where
  statement := s
  id := s.id (entity table)
  carrier :=
    match s with
    | .select => responseClass table
    | _ => parameterClass table
  sql := (s.sql table (ColumnSets.of columns)).map ("        " ++ ·)

def classAttribute (e : Entry) : String :=
  match e.statement with
  | .select => "resultType=\"" ++ e.carrier ++ "\""
  | _ => "parameterType=\"" ++ e.carrier ++ "\""

def tag (e : Entry) : String :=
  "<" ++ e.statement.verb ++ " id=\"" ++ e.id ++ "\" " ++ e.classAttribute ++ ">"

def element (e : Entry) : List String :=
  ("    " ++ e.tag) :: (e.sql ++ ["    </" ++ e.statement.verb ++ ">"])

def signature (e : Entry) : String :=
  match e.statement with
  | .select => e.carrier ++ " " ++ e.id ++ "(" ++ e.carrier ++ " param);"
  | _ => "int " ++ e.id ++ "(" ++ e.carrier ++ " dto);"

/-- The entry as an annotated method of an interface. -/
def method (e : Entry) : List String :=
  ("    @" ++ statementAnnotation e.statement ++ "(\"\"\"") ::
    (e.sql ++ ["        \"\"\")", "    " ++ e.signature])

end Entry

def entries (table : String) (columns : List Column) (o : MapperOptions) : List Entry :=
  o.selected.map (.of table columns)

def documentLines (table : String) (entries : List Entry) : List String :=
  ("<mapper namespace=\"" ++ repositoryClass table ++ "\">") ::
    ([""].intercalate (entries.map Entry.element) ++ ["</mapper>"])

def interfaceLines (table : String) (entries : List Entry) : List String :=
  "import org.apache.ibatis.annotations.*;" :: "" :: "@Mapper" ::
    ("public interface " ++ repositoryClass table ++ " \x7b") ::
    ([""].intercalate (entries.map Entry.method) ++ ["\x7d"])

/-! ## What the loops print -/

open Fragment

variable (table : String) (columns : List Column)

/-- Whatever stands around a statement, its SQL is two levels deep. -/
theorem allLines_sqlLines (s : Statement) :
    allLines .four 2 (sqlLines table columns s) = (Entry.of table columns s).sql :=
  allLines_map_line .four 2 (s.sql table (ColumnSets.of columns))

theorem openTag_eq (s : Statement) : openTag table s = (Entry.of table columns s).tag := by
  have hquote : "\"" ++ ">" = "\">" := rfl
  cases s <;>
    simp only [openTag, Entry.tag, Entry.classAttribute, Entry.of, ← hquote, String.append_assoc]

theorem methodLine_eq (s : Statement) :
    methodLine table s = (Entry.of table columns s).signature := by
  cases s <;> rfl

theorem allLines_statementElement (s : Statement) :
    allLines .four 1 (statementElement table columns s) = (Entry.of table columns s).element := by
  have hend : "    " ++ ("</" ++ s.verb ++ ">") = "    </" ++ s.verb ++ ">" := by
    cases s <;> rfl
  rw [statementElement, openTag_eq table columns, Entry.element, ← allLines_sqlLines]
  simp only [allLines, lines, Indent.atDepth_one, Indent.text, hend, List.append_nil]
  rfl

theorem allLines_statementMethod (s : Statement) :
    allLines .four 1 (statementMethod table columns s) = (Entry.of table columns s).method := by
  have hstart : "    " ++ ("@" ++ statementAnnotation s ++ "(\"\"\"") =
      "    @" ++ statementAnnotation s ++ "(\"\"\"" := by
    cases s <;> rfl
  rw [statementMethod, methodLine_eq table columns, Entry.method, ← allLines_sqlLines]
  simp only [allLines, lines, allLines_append, Indent.atDepth_one, Indent.text, hstart,
    List.append_nil, List.cons_append, List.append_assoc]
  rfl

/-- The groups of a mapper are its entries, with an empty line between two. -/
theorem allLines_groups {group : Statement → List Fragment} {body : Entry → List String}
    (h : ∀ s, allLines .four 1 (group s) = body (Entry.of table columns s)) (o : MapperOptions) :
    allLines .four 1 (joinGroups true (o.selected.map group)) =
      [""].intercalate ((entries table columns o).map body) := by
  have hgroups : (o.selected.map group).map (allLines .four 1) =
      (entries table columns o).map body := by
    simp only [entries, List.map_map]
    apply List.map_congr_left
    intro s _
    exact h s
  rw [allLines_joinGroups, hgroups]
  rfl

theorem allLines_documentFragments (context : Context) (o : MapperOptions) :
    allLines .four 0 (documentFragments context o columns) =
      documentLines context.table (entries context.table columns o) := by
  have hbody := allLines_groups context.table columns
    (allLines_statementElement context.table columns) o
  simp only [documentFragments, allLines, lines, Nat.zero_add, hbody, Indent.atDepth,
    String.empty_append, List.append_nil]
  rfl

theorem allLines_interfaceFragments (context : Context) (o : MapperOptions) :
    allLines .four 0 (interfaceFragments context o columns) =
      interfaceLines context.table (entries context.table columns o) := by
  have hbody := allLines_groups context.table columns
    (allLines_statementMethod context.table columns) o
  simp only [interfaceFragments, allLines, lines, Nat.zero_add, hbody, Indent.atDepth,
    String.empty_append, List.append_nil]
  rfl

end Mapper

namespace Configured

open Mapper

variable (context : Context) (o : MapperOptions) {columns : List Column}

theorem source_mapperXml (columns : List Column) :
    (Configured.javaMapperXml o).source context columns =
      unlines (documentLines context.table (entries context.table columns o)) := by
  rw [source, Fragment.print_eq_unlines]
  exact congrArg unlines (allLines_documentFragments columns context o)

theorem source_mapperInterface (columns : List Column) :
    (Configured.javaMapperInterface o).source context columns =
      unlines (interfaceLines context.table (entries context.table columns o)) := by
  rw [source, Fragment.print_eq_unlines]
  exact congrArg unlines (allLines_interfaceFragments columns context o)

/-- **Both mappers of a table wrap the same entries**: the selected statements in order, each
under the same name, and with the same lines of SQL behind the same margin. -/
theorem generate_mappers_of_entries (h : Ascending columns) :
    ∃ shared : List Entry,
      shared.map (·.statement) = Statement.all.filter (fun s => o.allCrud || o.flagOf s) ∧
      (∀ e ∈ shared, e.id = e.statement.verb ++ Naming.pascal context.table ∧
        e.sql = (e.statement.sql context.table (ColumnSets.of columns)).map
          ("        " ++ ·)) ∧
      (Configured.javaMapperXml o).generate context (columns.map .ok) =
        .ok (unlines (documentLines context.table shared)) ∧
      (Configured.javaMapperInterface o).generate context (columns.map .ok) =
        .ok (unlines (interfaceLines context.table shared)) := by
  refine ⟨entries context.table columns o, ?_, ?_, ?_, ?_⟩
  · rw [entries, List.map_map, MapperOptions.selected_eq]
    exact List.map_id _
  · intro e he
    obtain ⟨s, -, rfl⟩ := List.mem_map.mp he
    exact ⟨rfl, rfl⟩
  · rw [generate_of_ascending _ context h, source_mapperXml]
  · rw [generate_of_ascending _ context h, source_mapperInterface]

/-- A key, a reserved word and an audit column, under two of the four flags. -/
theorem update_and_delete_wrapped_twice :
    let context : Context := ⟨"order_line", "OrderLine", .postgres⟩
    let o : MapperOptions := ⟨false, false, false, true, true⟩
    let columns := [(Column.new 1 "line_no" "int").asKey, Column.new 2 "class" "text",
      Column.new 3 "INSERT_DTM" "timestamp"]
    Ascending columns ∧
      ∃ update delete : Entry,
        update.id = "updateOrderLine" ∧ delete.id = "deleteOrderLine" ∧
        update.sql = ["        UPDATE order_line", "        SET",
          "          class = #\x7bclass_\x7d,", "          update_ip = #\x7bupdateIp\x7d,",
          "          update_user_id = #\x7bupdateUserId\x7d,",
          "          update_dtm = CURRENT_TIMESTAMP(6)", "        WHERE TRUE",
          "            AND line_no = #\x7blineNo\x7d"] ∧
        delete.sql = ["        DELETE", "        FROM order_line", "        WHERE TRUE",
          "            AND line_no = #\x7blineNo\x7d"] ∧
        (Configured.javaMapperXml o).generate context (columns.map .ok) =
          .ok (unlines (documentLines "order_line" [update, delete])) ∧
        (Configured.javaMapperInterface o).generate context (columns.map .ok) =
          .ok (unlines (interfaceLines "order_line" [update, delete])) := by
  intro context o columns
  have hascending : Ascending columns := by decide
  obtain ⟨shared, hstatements, hentries, hdocument, hinterface⟩ :=
    generate_mappers_of_entries context o hascending
  -- the flags leave an update and a delete
  have htwo : shared.map (·.statement) = [.update, .delete] := hstatements
  obtain ⟨update, rest, rfl, hupdate, hrest⟩ := List.map_eq_cons_iff.mp htwo
  obtain ⟨delete, others, rfl, hdelete, hothers⟩ := List.map_eq_cons_iff.mp hrest
  obtain rfl := List.map_eq_nil_iff.mp hothers
  obtain ⟨hupdateId, hupdateSql⟩ := hentries update (by simp)
  obtain ⟨hdeleteId, hdeleteSql⟩ := hentries delete (by simp)
  rw [hupdate] at hupdateId hupdateSql
  rw [hdelete] at hdeleteId hdeleteSql
  refine ⟨hascending, update, delete, ?_, ?_, ?_, ?_, hdocument, hinterface⟩
  · rw [hupdateId]
    decide +kernel
  · rw [hdeleteId]
    decide +kernel
  · rw [hupdateSql]
    decide +kernel
  · rw [hdeleteSql]
    decide +kernel

end Configured

end SchemaCodegen
