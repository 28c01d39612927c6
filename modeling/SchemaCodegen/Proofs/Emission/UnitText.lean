import SchemaCodegen.Proofs.Emission.Source
import SchemaCodegen.Proofs.Layout.Ends

/-!
# The ends of a unit

Every target starts its unit on the first line, with an annotation, an import or
the words of the declaration, and ends it on the last one, with the line that
closes the declaration or that declares an alias. Names, types and comments stand
between fixed texts there, so that none of them reaches the ends of a unit: not
even a name with line feeds in it makes an empty line at either end.
-/

namespace SchemaCodegen

open Fragment

/-! ## Java -/

namespace Java

theorem annotation_leads (tag : AnnotationTag) : leadsWith notLineFeed tag.text = true := by
  cases tag with
  | schema description => exact leadsWith_append (leadsWith_append (by decide) _) _
  | jsonProperty name => exact leadsWith_append (leadsWith_append (by decide) _) _
  | _ => decide

theorem ClassDecl.header_leads (d : ClassDecl) : leadsWith notLineFeed d.header = true := by
  unfold header
  split
  · exact leadsWith_append (leadsWith_append (by decide) _) _
  · exact leadsWith_append (leadsWith_append (leadsWith_append
      (leadsWith_append (by decide) _) _) _) _

theorem ClassDecl.isUnitText_print (d : ClassDecl) : IsUnitText d.print := by
  apply Fragment.isUnitText_print
  · refine starts_lines_append annotation_leads d.annotations ?_
    split
    · exact starts_line (leadsWith_append d.header_leads _) []
    · exact starts_block d.header_leads _ _ []
  · apply finishes_append
    split
    · exact finishes_line (trailsWith_append (by decide) _)
    · exact finishes_block (by decide) _ _

theorem RecordDecl.isUnitText_print (d : RecordDecl) : IsUnitText d.print := by
  have hheader : leadsWith notLineFeed ("public record " ++ d.name) = true :=
    leadsWith_append (by decide) _
  apply Fragment.isUnitText_print
  · refine starts_lines_append annotation_leads d.annotations ?_
    split
    · exact starts_line (leadsWith_append hheader _) []
    · exact starts_block (leadsWith_append hheader _) _ _ []
  · apply finishes_append
    split
    · exact finishes_line (trailsWith_append (by decide) _)
    · exact finishes_block (by decide) _ _

end Java

/-! ## C# -/

namespace CSharp

/-- Imports start the text if there are any. -/
theorem starts_usingLines_append (attributes : List AttributeTag) {rest : List Fragment}
    (h : Starts .four rest) : Starts .four (usingLines attributes ++ rest) := by
  unfold usingLines
  cases namespaces attributes with
  | nil => exact h
  | cons n needed =>
      have hfirst : leadsWith notLineFeed ("using " ++ n ++ ";") = true :=
        leadsWith_append (leadsWith_append (by decide) _) _
      exact starts_line hfirst _

theorem TypeDecl.isUnitText_print (d : TypeDecl) : IsUnitText d.print := by
  apply Fragment.isUnitText_print
  · apply starts_usingLines_append
    exact starts_line
      (leadsWith_append (leadsWith_append (leadsWith_append (by decide) _) _) _) _
  · apply finishes_append
    apply finishes_cons
    exact finishes_block (by decide) _ _

theorem PositionalRecord.isUnitText_print (d : PositionalRecord) : IsUnitText d.print := by
  have hheader : leadsWith notLineFeed ("public record " ++ d.name) = true :=
    leadsWith_append (by decide) _
  apply Fragment.isUnitText_print
  · apply starts_usingLines_append
    split
    · exact starts_line (leadsWith_append hheader _) []
    · exact starts_block (leadsWith_append hheader _) _ _ []
  · apply finishes_append
    split
    · exact finishes_line (trailsWith_append (by decide) _)
    · exact finishes_block (by decide) _ _

end CSharp

/-! ## TypeScript -/

namespace TypeScript

theorem ObjectDecl.header_leads (d : ObjectDecl) : leadsWith notLineFeed d.header = true := by
  unfold header
  apply leadsWith_append
  apply leadsWith_append
  apply leadsWith_append
  cases d.exported <;> cases d.kind <;> decide

theorem ObjectDecl.starts_fragments (d : ObjectDecl) : Starts .two d.fragments := by
  unfold fragments
  split
  · exact starts_line (leadsWith_append d.header_leads _) []
  · exact starts_block d.header_leads _ _ []

theorem ObjectDecl.finishes_fragments (d : ObjectDecl) : Finishes .two d.fragments := by
  have hclose : trailsWith notLineFeed d.close = true := by
    unfold close
    split <;> decide
  unfold fragments
  split
  · exact finishes_line (trailsWith_append hclose _)
  · exact finishes_block hclose _ _

theorem finishes_aliasLine (exported : Bool) (utility name : String) :
    Finishes .two [aliasLine exported utility name] :=
  finishes_line (trailsWith_append (by decide) _)

/-- The lines after a declaration end on the last alias. -/
theorem finishes_aliasLines_append {fragments : List Fragment} (h : Finishes .two fragments)
    (o : TypeScriptOptions) (name : String) :
    Finishes .two (fragments ++ aliasLines o name) := by
  unfold aliasLines
  cases hpartial : o.partialType <;> cases hreadonly : o.readonlyType
  · simpa using h
  · exact finishes_append (finishes_cons (finishes_aliasLine _ _ _) _) _
  · exact finishes_append (finishes_cons (finishes_aliasLine _ _ _) _) _
  · exact finishes_append (finishes_cons (finishes_cons (finishes_aliasLine _ _ _) _) _) _

theorem isUnitText_printWithAliases (o : TypeScriptOptions) (d : ObjectDecl) :
    IsUnitText (printWithAliases o d) := by
  apply Fragment.isUnitText_print
  · exact starts_append d.starts_fragments _
  · exact finishes_aliasLines_append d.finishes_fragments o d.name

end TypeScript

namespace Zod

theorem isUnitText_schema (context : Context) (o : ZodOptions) (columns : List Column) :
    IsUnitText (Fragment.print .two (schemaFragments context o columns)) := by
  apply Fragment.isUnitText_print
  · apply starts_block
    exact leadsWith_append (leadsWith_append (by decide) _) _
  · unfold schemaFragments
    split
    · apply finishes_cons
      apply finishes_cons
      exact finishes_line (trailsWith_append (by decide) _)
    · exact finishes_block (by decide) _ _

end Zod

/-! ## Mappers -/

namespace Mapper

theorem isUnitText_document (context : Context) (o : MapperOptions) (columns : List Column) :
    IsUnitText (Fragment.print .four (documentFragments context o columns)) := by
  apply Fragment.isUnitText_print
  · apply starts_block
    exact leadsWith_append (leadsWith_append (by decide) _) _
  · exact finishes_block (by decide) _ _

theorem isUnitText_interface (context : Context) (o : MapperOptions) (columns : List Column) :
    IsUnitText (Fragment.print .four (interfaceFragments context o columns)) := by
  apply Fragment.isUnitText_print
  · exact starts_line (by decide) _
  · apply finishes_cons
    apply finishes_cons
    apply finishes_cons
    exact finishes_block (by decide) _ _

end Mapper

/-! ## Configured targets -/

namespace Configured

/-- The source of every target has both its ends. -/
theorem isUnitText_source (c : Configured) (context : Context) (columns : List Column) :
    IsUnitText (c.source context columns) := by
  cases c with
  | javaDto o => exact (Java.classDecl context o columns).isUnitText_print
  | javaRecord o => exact (Java.recordDecl context o columns).isUnitText_print
  | javaMapperXml o => exact Mapper.isUnitText_document context o columns
  | javaMapperInterface o => exact Mapper.isUnitText_interface context o columns
  | csharpDto o => exact (CSharp.classDecl context o columns).isUnitText_print
  | csharpRecord o =>
      by_cases hform : o.positional = true
      · rw [source, fragments, if_pos hform]
        exact (CSharp.positionalRecord context o columns).isUnitText_print
      · rw [source, fragments, if_neg hform]
        exact (CSharp.recordDecl context o columns).isUnitText_print
  | typescript kind o =>
      exact TypeScript.isUnitText_printWithAliases o (TypeScript.objectDecl kind context o columns)
  | typescriptZod o => exact Zod.isUnitText_schema context o columns

theorem isUnitText_of_generate {c : Configured} {context : Context} {items : List StreamItem}
    {text : String} (h : c.generate context items = .ok text) : IsUnitText text := by
  rw [generate_eq] at h
  cases hcolumns : context.drain items with
  | error failure =>
      rw [hcolumns] at h
      cases h
  | ok columns =>
      rw [hcolumns] at h
      obtain rfl : c.source context columns = text := Except.ok.inj h
      exact c.isUnitText_source context columns

end Configured

end SchemaCodegen
