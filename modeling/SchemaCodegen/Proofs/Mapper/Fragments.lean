import SchemaCodegen.Emission.Mapper
import SchemaCodegen.Proofs.Layout.Rendering

/-!
# Mappers as fragments

The two loops that print mappers go up and down by themselves: one closes the
element of a statement after it has gone up again, the other ends a text block
while it is still down. Both leave the depth as they found it, so that what
they print for a statement is a short list of fragments, and a mapper is the
print of one tree of fragments.
-/

namespace SchemaCodegen

namespace Printer

/-- Lines are printed one by one. -/
theorem emit_map_line (p : Printer) (lines : List String) :
    p.emit (lines.map .line) = lines.foldl Printer.line p := by
  induction lines generalizing p with
  | nil => rfl
  | cons s rest ih =>
      simp [emit, emitOne, ih]

end Printer

namespace Mapper

variable (table : String) (columns : List Column)

/-! ## Statements -/

def sqlLines (table : String) (columns : List Column) (s : Statement) : List Fragment :=
  (s.sql table (ColumnSets.of columns)).map .line

def statementElement (table : String) (columns : List Column) (s : Statement) : List Fragment :=
  [.block (openTag table s) (sqlLines table columns s) (some ("</" ++ s.verb ++ ">"))]

/-- The annotated method of a statement. The text block ends one level below its annotation. -/
def statementMethod (table : String) (columns : List Column) (s : Statement) : List Fragment :=
  [.block ("@" ++ statementAnnotation s ++ "(\"\"\"")
    (sqlLines table columns s ++ [.line "\"\"\")"]) none,
   .line (methodLine table s)]

theorem printElement_eq_emit (p : Printer) (s : Statement) :
    printElement table (ColumnSets.of columns) p s = p.emit (statementElement table columns s) := by
  rw [printElement, ← Printer.emit_map_line]
  rfl

theorem printMethod_eq_emit (p : Printer) (s : Statement) :
    printMethod table (ColumnSets.of columns) p s = p.emit (statementMethod table columns s) := by
  simp only [statementMethod, Printer.emit, Printer.emitOne, Printer.emit_append, sqlLines,
    Printer.emit_map_line]
  rfl

/-! ## Statements one after the other -/

section Apart

variable {print : Printer → Statement → Printer} {group : Statement → List Fragment}

/-- Past the first statement every one has a blank line above it. -/
theorem foldl_zipIdx_eq_emit (h : ∀ p s, print p s = p.emit (group s)) (p : Printer)
    (statements : List Statement) (k : Nat) :
    (statements.zipIdx (k + 1)).foldl (fun p s => print (if 0 < s.2 then p.blank else p) s.1) p =
      p.emit (statements.flatMap fun s => .blank :: group s) := by
  induction statements generalizing p k with
  | nil => rfl
  | cons s rest ih =>
      have hblank : print p.blank s = p.emit (.blank :: group s) := h p.blank s
      rw [List.zipIdx_cons, List.foldl_cons, if_pos (Nat.succ_pos k), hblank, ih,
        List.flatMap_cons, Printer.emit_append]

/-- **Printing statements apart is printing their groups, joined by blank lines.** -/
theorem printApart_eq_emit (h : ∀ p s, print p s = p.emit (group s)) (p : Printer)
    (statements : List Statement) :
    printApart print p statements = p.emit (Fragment.joinGroups true (statements.map group)) := by
  cases statements with
  | nil => rfl
  | cons first rest =>
      rw [printApart, List.zipIdx_cons, List.foldl_cons, if_neg (Nat.lt_irrefl 0), h,
        foldl_zipIdx_eq_emit h, List.map_cons, Fragment.joinGroups_cons, Printer.emit_append,
        List.flatMap_map]
      rfl

end Apart

/-! ## Units -/

def documentFragments (context : Context) (o : MapperOptions) (columns : List Column) :
    List Fragment :=
  [.block ("<mapper namespace=\"" ++ repositoryClass context.table ++ "\">")
    (Fragment.joinGroups true (o.selected.map (statementElement context.table columns)))
    (some "</mapper>")]

def interfaceFragments (context : Context) (o : MapperOptions) (columns : List Column) :
    List Fragment :=
  [.line "import org.apache.ibatis.annotations.*;",
   .blank,
   .line Java.AnnotationTag.mapper.text,
   .block ("public interface " ++ repositoryClass context.table ++ " \x7b")
    (Fragment.joinGroups true (o.selected.map (statementMethod context.table columns)))
    (some "\x7d")]

theorem text_printDocument (context : Context) (o : MapperOptions) (columns : List Column) :
    (printDocument context o columns).text =
      Fragment.print .four (documentFragments context o columns) := by
  rw [printDocument, printApart_eq_emit (printElement_eq_emit context.table columns)]
  rfl

theorem text_printInterface (context : Context) (o : MapperOptions) (columns : List Column) :
    (printInterface context o columns).text =
      Fragment.print .four (interfaceFragments context o columns) := by
  rw [printInterface, printApart_eq_emit (printMethod_eq_emit context.table columns)]
  rfl

end Mapper

end SchemaCodegen
