import SchemaCodegen.Proofs.Declaration.Lines
import SchemaCodegen.Proofs.Emission.Blocks

/-!
# The partition of a unit

The source of a unit is its opening, the blocks of its columns and its closing.
The cases of the proof are the targets. Each prints a tree whose only block
holds the members, so what is left for a target is that the lines it prints for
a member are the lines of the column.
-/

namespace SchemaCodegen

/-- A tree around one block is cut below its header and above its last line. -/
theorem Fragment.renderAll_around_block (unit : Indent) (before after body : List Fragment)
    (header close : String) :
    renderAll unit 0 (before ++ .block header body (some close) :: after) =
      renderAll unit 0 (before ++ [.line header]) ++ renderAll unit 1 body ++
        renderAll unit 0 (.line close :: after) := by
  simp [renderAll, render, String.append_assoc]

namespace Configured

/-- Groups that print the lines of the columns print their blocks, when they are joined. -/
theorem renderAll_joinGroups_eq_blocks {c : Configured} {engine : Engine} {columns : List Column}
    {groups : List (List Fragment)}
    (h : groups.map (Fragment.renderAll c.indent 1) = columns.mapIdx fun i column =>
      String.join
        ((c.memberLines engine (i + 1 == columns.length) column).map (c.indent.lineAt 1))) :
    Fragment.renderAll c.indent 1 (Fragment.joinGroups c.spaced groups) =
      String.join (c.blocks engine columns) := by
  have hgaps := mapIdx_map (fun i text => (if c.spaced && !(i == 0) then "\n" else "") ++ text)
    (Fragment.renderAll c.indent 1) groups
  rw [Fragment.renderAll_joinGroups, ← hgaps, h, List.mapIdx_mapIdx]
  rfl

/-- The same for targets whose members do not depend on their place. -/
theorem renderAll_joinGroups_map_eq_blocks {c : Configured} {engine : Engine}
    {columns : List Column} {α : Type} {member : Column → α} {lines : α → List Fragment}
    (h : ∀ isLast column, Fragment.renderAll c.indent 1 (lines (member column)) =
      String.join ((c.memberLines engine isLast column).map (c.indent.lineAt 1))) :
    Fragment.renderAll c.indent 1
        (Fragment.joinGroups c.spaced ((columns.map member).map lines)) =
      String.join (c.blocks engine columns) := by
  apply renderAll_joinGroups_eq_blocks
  rw [List.map_map, List.map_map, map_eq_mapIdx]
  apply congrArg (List.mapIdx · columns)
  funext i column
  exact h (i + 1 == columns.length) column

/-- The same for targets that put a comma behind every member but the last. -/
theorem renderAll_joinGroups_separated_eq_blocks {c : Configured} {engine : Engine}
    {columns : List Column} {α : Type} {member : Column → α} {lines : α × String → List Fragment}
    (h : ∀ isLast column,
      Fragment.renderAll c.indent 1 (lines (member column, if isLast then "" else ",")) =
        String.join ((c.memberLines engine isLast column).map (c.indent.lineAt 1))) :
    Fragment.renderAll c.indent 1
        (Fragment.joinGroups c.spaced ((withSeparators "," (columns.map member)).map lines)) =
      String.join (c.blocks engine columns) := by
  apply renderAll_joinGroups_eq_blocks
  -- every list of the pipeline is indexed by the places of the columns
  rw [withSeparators_eq_mapIdx, mapIdx_map, List.length_map, map_eq_mapIdx, map_eq_mapIdx,
    List.mapIdx_mapIdx, List.mapIdx_mapIdx]
  apply congrArg (List.mapIdx · columns)
  funext i column
  exact h (i + 1 == columns.length) column

end Configured

/-! ## The parts of each language -/

namespace CSharp

/-- All attributes need one namespace, so that it is imported once. -/
@[simp] theorem namespaces_cons (a : AttributeTag) (rest : List AttributeTag) :
    namespaces (a :: rest) = ["System.Text.Json.Serialization"] := by
  have hall : ∀ a : AttributeTag, a.requiredNamespace = "System.Text.Json.Serialization" := by
    intro a
    cases a
    rfl
  have hrest : (rest.map (·.requiredNamespace)).filter
      (fun n => !n == "System.Text.Json.Serialization") = [] := by
    apply List.filter_eq_nil_iff.mpr
    intro n hn
    rcases List.mem_map.mp hn with ⟨b, -, rfl⟩
    rw [hall b]
    decide
  rw [namespaces, List.map_cons, List.eraseDups_cons, hall a, hrest, List.eraseDups_nil]

theorem renderAll_usingLines (jsonNames : Bool) (columns : List Column) (unit : Indent) :
    Fragment.renderAll unit 0 (usingLines (columns.flatMap (columnAttributes jsonNames))) =
      if jsonNames && !columns.isEmpty then "using System.Text.Json.Serialization;\n\n"
      else "" := by
  cases jsonNames with
  | false =>
      have hnone : columns.flatMap (columnAttributes false) = [] := by
        apply List.flatMap_eq_nil_iff.mpr
        intro c _
        rfl
      rw [hnone]
      rfl
  | true =>
      cases columns with
      | nil => rfl
      | cons c rest =>
          have hone : usingLines ((c :: rest).flatMap (columnAttributes true)) =
              [.line "using System.Text.Json.Serialization;", .blank] := by
            simp [columnAttributes, usingLines]
          rw [hone]
          cases unit <;> rfl

end CSharp

theorem TypeScript.renderAll_propertyLines (p : Property) (unit : Indent) (depth : Nat) :
    Fragment.renderAll unit depth p.lines =
      String.join ((p.docs.map Fragment.docLine ++
        [(if p.readonly then "readonly " else "") ++ p.name ++ (if p.isOptional then "?" else "") ++
          ": " ++ p.type ++ ";"]).map (unit.lineAt depth)) := by
  have hdocs : Fragment.renderAll unit depth (p.docs.map .doc) =
      String.join ((p.docs.map Fragment.docLine).map (unit.lineAt depth)) := by
    simp only [Fragment.renderAll_eq_join, List.map_map]
    apply congrArg String.join
    apply List.map_congr_left
    intro doc _
    rw [Function.comp, Fragment.render, Function.comp]
  rw [Property.lines, Fragment.renderAll_append, hdocs, List.map_append, String.join_append]
  congr 1
  exact Fragment.renderAll_map_line unit depth [_]

/-- The calls on a field's schema look at the column's nullability and largest length only. -/
theorem Zod.fieldChain_text (engine : Engine) (o : ZodOptions) (c : Column) :
    (fieldChain engine o c).text = (Configured.typescriptZod o).memberType engine c := by
  simp only [fieldChain, admitMissing, refine, fieldBound, Configured.memberType, Configured.adapt,
    Configured.typeTable]
  cases o.nullish <;> rfl

/-! ## Units -/

namespace Configured

variable {c : Configured} {context : Context} {columns : List Column}

/-- The parts of a unit whose members stand in a block below its imports. -/
theorem source_of_block (imports before : List Fragment) {body after : List Fragment}
    {header close : String}
    (hfragments : c.fragments context columns =
      imports ++ (before ++ .block header body (some close) :: after))
    (himports : Fragment.renderAll c.indent 0 imports = c.directive columns.isEmpty)
    (hheading : c.heading context columns.isEmpty = before ++ [.line header])
    (hending : c.ending context columns.isEmpty = .line close :: after)
    (hbody : Fragment.renderAll c.indent 1 body = String.join (c.blocks context.engine columns)) :
    c.source context columns =
      c.opening context columns.isEmpty ++ String.join (c.blocks context.engine columns) ++
        c.closing context columns.isEmpty := by
  rw [source, opening, closing, hfragments, hheading, hending, Fragment.print_eq,
    Fragment.print_eq, Fragment.print_eq, Fragment.renderAll_append, himports,
    Fragment.renderAll_around_block, hbody]
  simp only [String.append_assoc]

/-- The parts of a unit that has no members and closes on the line that opens it. -/
theorem source_of_line (hfragments : c.fragments context [] =
      c.heading context true ++ c.ending context true) :
    c.source context [] =
      c.opening context true ++ String.join (c.blocks context.engine []) ++
        c.closing context true := by
  have hdirective : c.directive true = "" := by
    rw [directive, Bool.not_true, Bool.and_false]
    rfl
  have hblocks : String.join (c.blocks context.engine []) = "" := rfl
  rw [source, opening, closing, hfragments, hdirective, hblocks, Fragment.print_eq,
    Fragment.print_eq, Fragment.print_eq, Fragment.renderAll_append, String.empty_append,
    String.append_empty]

theorem source_csharpBody {o : CSharpRecordOptions} (h : o.positional = false) :
    (csharpRecord o).source context columns =
      (csharpRecord o).opening context columns.isEmpty ++
        String.join ((csharpRecord o).blocks context.engine columns) ++
        (csharpRecord o).closing context columns.isEmpty := by
  refine source_of_block (c := .csharpRecord o)
    (CSharp.usingLines ((CSharp.recordDecl context o columns).members.flatMap (·.attributes)))
    [.line ("public record " ++ context.typeName)]
    (by rw [fragments, h]; rfl) ?_ (by rw [heading, h]; rfl) (by rw [ending, h]; rfl) ?_
  · rw [CSharp.recordDecl, List.flatMap_map]
    exact CSharp.renderAll_usingLines o.jsonPropertyName columns _
  · apply renderAll_joinGroups_map_eq_blocks (c := .csharpRecord o)
    intro isLast column
    rw [CSharp.renderAll_memberLines, memberLines, decorations, declaration, h]
    rfl

theorem source_csharpPositional {o : CSharpRecordOptions} (h : o.positional = true) :
    (csharpRecord o).source context columns =
      (csharpRecord o).opening context columns.isEmpty ++
        String.join ((csharpRecord o).blocks context.engine columns) ++
        (csharpRecord o).closing context columns.isEmpty := by
  cases columns with
  | nil =>
      apply source_of_line (c := .csharpRecord o)
      rw [fragments, heading, ending, h]
      rfl
  | cons first rest =>
      refine source_of_block (c := .csharpRecord o)
        (CSharp.usingLines
          ((CSharp.positionalRecord context o (first :: rest)).parameters.flatMap (·.attributes)))
        [] (by rw [fragments, h]; rfl) ?_ (by rw [heading, h]; rfl) (by rw [ending, h]; rfl) ?_
      · rw [CSharp.positionalRecord, List.flatMap_map]
        exact CSharp.renderAll_usingLines o.jsonPropertyName (first :: rest) _
      · apply renderAll_joinGroups_separated_eq_blocks (c := .csharpRecord o)
        intro isLast column
        rw [memberLines, decorations, declaration, h]
        exact Fragment.renderAll_map_line _ 1 [_]

/-- **The source of a unit is its opening, the blocks of its columns and its
closing.** -/
theorem source_eq_blocks (c : Configured) (h : c.isMapper = false) (context : Context)
    (columns : List Column) :
    c.source context columns =
      c.opening context columns.isEmpty ++ String.join (c.blocks context.engine columns) ++
        c.closing context columns.isEmpty := by
  cases c with
  | javaDto o =>
      cases columns with
      | nil => exact source_of_line (c := .javaDto o) (List.append_nil _).symm
      | cons first rest =>
          refine source_of_block (c := .javaDto o) [] _ rfl rfl rfl rfl ?_
          apply renderAll_joinGroups_map_eq_blocks (c := .javaDto o)
          intro isLast column
          rw [Java.fieldLines_eq, Fragment.renderAll_map_line]
          rfl
  | javaRecord o =>
      cases columns with
      | nil => exact source_of_line (c := .javaRecord o) (List.append_nil _).symm
      | cons first rest =>
          refine source_of_block (c := .javaRecord o) [] _ rfl rfl rfl rfl ?_
          apply renderAll_joinGroups_separated_eq_blocks (c := .javaRecord o)
          intro isLast column
          rw [Java.componentLines_eq, Fragment.renderAll_map_line]
          rfl
  | javaMapperXml o => cases h
  | javaMapperInterface o => cases h
  | csharpDto o =>
      refine source_of_block (c := .csharpDto o)
        (CSharp.usingLines ((CSharp.classDecl context o columns).members.flatMap (·.attributes)))
        [.line ("public class " ++ context.typeName)] rfl ?_ rfl rfl ?_
      · rw [CSharp.classDecl, List.flatMap_map]
        exact CSharp.renderAll_usingLines o.jsonPropertyName columns _
      · apply renderAll_joinGroups_map_eq_blocks (c := .csharpDto o)
        intro isLast column
        rw [CSharp.renderAll_memberLines]
        rfl
  | csharpRecord o =>
      cases hform : o.positional with
      | false => exact source_csharpBody hform
      | true => exact source_csharpPositional hform
  | typescript kind o =>
      cases columns with
      | nil => exact source_of_line (c := .typescript kind o) rfl
      | cons first rest =>
          refine source_of_block (c := .typescript kind o) [] [] rfl rfl rfl rfl ?_
          apply renderAll_joinGroups_map_eq_blocks (c := .typescript kind o)
          intro isLast column
          rw [TypeScript.renderAll_propertyLines]
          rfl
  | typescriptZod o =>
      refine source_of_block (c := .typescriptZod o) [] [] rfl rfl rfl rfl ?_
      -- a field of a schema is a group of one line
      have hlines :
          (columns.map fun column => Fragment.line (Zod.fieldLine context.engine o column)) =
            Fragment.joinGroups false
              ((columns.map (Zod.fieldLine context.engine o)).map ([.line ·])) := by
        rw [List.map_map]
        exact List.map_eq_flatMap
      rw [hlines]
      apply renderAll_joinGroups_map_eq_blocks (c := .typescriptZod o)
      intro isLast column
      rw [Zod.fieldLine, Zod.fieldChain_text]
      exact Fragment.renderAll_map_line _ 1 [_]

end Configured

end SchemaCodegen
