import SchemaCodegen.Proofs.Emission.Source
import SchemaCodegen.Proofs.Nesting.Declarations
import SchemaCodegen.Proofs.Nesting.Statements
import SchemaCodegen.Proofs.Nesting.Types

/-!
# Well-nested units

Every unit is a well-nested text, for each target, under any options and over
any number of columns, none included. The names and comments of the request are
assumed to have no brackets; raw types may have some. What a target contributes
is that the members of its declaration are made of names without brackets and
of well-nested types.
-/

namespace SchemaCodegen

theorem forall_mem_if {α : Type} {P : α → Prop} {a : α} (b : Bool) (h : P a) :
    ∀ x ∈ (if b then [a] else []), P x := by
  intro x hx
  cases b with
  | false => cases hx
  | true =>
      simp only [if_true, List.mem_singleton] at hx
      rw [hx]
      exact h

/-! ## Members of columns -/

section Members

variable {c : Column} (h : c.BracketFree)

namespace Java

include h in
theorem wellNested_columnAnnotations (swagger jackson : Bool) :
    ∀ tag ∈ columnAnnotations swagger jackson c, WellNested tag.text := by
  have hliteral : ∀ s, BracketFree s → WellNested (stringLiteral s) := by
    intro s hs
    exact (Text.bracketFree_literal Text.noBrackets_escapeQuoteOrBreak hs).wellNested
  unfold columnAnnotations
  rw [List.forall_mem_append]
  constructor
  · split
    · rename_i doc hdoc
      have hopen : Leaves [] "@Schema(description = " [')'] := by decide
      have htag : WellNested (AnnotationTag.schema doc).text :=
        (hliteral doc (h.doc hdoc)).enclose hopen (by decide)
      exact List.forall_mem_singleton.mpr htag
    · exact List.forall_mem_nil _
  · refine forall_mem_if jackson ?_
    have hopen : Leaves [] "@JsonProperty(" [')'] := by decide
    exact (hliteral _ (Naming.bracketFree_camel h.name)).enclose hopen (by decide)

include h in
theorem nested_columnField (engine : Engine) (swagger jackson : Bool) :
    (columnField engine swagger jackson c).Nested where
  name := (Naming.bracketFree_javaField h.name).wellNested
  type := TypeTable.wellNested_java engine c.rawType
  annotations := wellNested_columnAnnotations h swagger jackson

theorem wellNested_classAnnotations (o : JavaDtoOptions) :
    ∀ tag ∈ classAnnotations o, WellNested tag.text := by
  have haccess : ∀ tag ∈ (if o.data then [AnnotationTag.data] else
      (if o.getter then [.getter] else []) ++ if o.setter then [.setter] else []),
      WellNested tag.text := by
    split
    · exact List.forall_mem_singleton.mpr (by decide)
    · rw [List.forall_mem_append]
      constructor
      · exact forall_mem_if o.getter (by decide)
      · exact forall_mem_if o.setter (by decide)
  -- a conjunct for each option, the access annotations first
  simp only [classAnnotations, List.forall_mem_append]
  refine ⟨⟨⟨haccess, ?_⟩, ?_⟩, ?_⟩
  · exact forall_mem_if o.noArgsConstructor (by decide)
  · exact forall_mem_if o.allArgsConstructor (by decide)
  · exact forall_mem_if o.builder (by decide)

end Java

namespace CSharp

include h

theorem nested_columnAttributes (jsonNames : Bool) :
    ∀ a ∈ columnAttributes jsonNames c, a.Nested :=
  forall_mem_if jsonNames (Text.bracketFree_literal Text.noBrackets_escapeQuote h.name).wellNested

theorem wellNested_declaration (engine : Engine) (nullable inCamelCase : Bool) {ending : String}
    (hending : WellNested ending) :
    WellNested ("public " ++ columnType engine nullable c ++ " " ++
      Naming.csharpProperty c.name inCamelCase ++ ending) := by
  have htype : WellNested ("public " ++ columnType engine nullable c) :=
    WellNested.append (by decide) (wellNested_columnType engine nullable c)
  have hname := (Naming.bracketFree_csharpProperty h.name inCamelCase).wellNested
  exact ((htype.append (by decide)).append hname).append hending

theorem nested_classMember (engine : Engine) (o : CSharpDtoOptions) :
    (classMember engine o c).Nested where
  attributes := nested_columnAttributes h o.jsonPropertyName
  declaration := by
    refine wellNested_declaration h engine o.nullable o.camelCaseProperties ?_
    cases o.getter <;> cases o.setter <;> decide

theorem nested_recordMember (engine : Engine) (o : CSharpRecordOptions) :
    (recordMember engine o c).Nested where
  attributes := nested_columnAttributes h o.jsonPropertyName
  declaration := by
    refine wellNested_declaration h engine o.nullable o.camelCaseProperties ?_
    cases o.withInit <;> decide

theorem nested_recordParameter (engine : Engine) (o : CSharpRecordOptions) :
    (recordParameter engine o c).Nested where
  type := wellNested_columnType engine o.nullable c
  name := (Naming.bracketFree_csharpProperty h.name o.camelCaseProperties).wellNested
  attributes := nested_columnAttributes h o.jsonPropertyName

end CSharp

namespace TypeScript

include h

theorem wellNested_columnDocs (engine : Engine) (o : TypeScriptOptions) :
    ∀ doc ∈ columnDocs engine o c, WellNested doc := by
  unfold columnDocs
  rw [List.forall_mem_append]
  constructor
  · refine forall_mem_if o.jsDocComments ?_
    have hopen : Leaves [] "@type \x7b" ['}'] := by decide
    exact (wellNested_columnType engine o.strictNullChecks c).enclose hopen (by decide)
  · split
    · rename_i doc _ hdoc
      have hdocs : WellNested (Naming.commentText doc) :=
        (Naming.bracketFree_commentText (h.doc hdoc)).wellNested
      exact List.forall_mem_singleton.mpr hdocs
    · exact List.forall_mem_nil _

theorem nested_columnProperty (engine : Engine) (o : TypeScriptOptions) :
    (columnProperty engine o c).Nested where
  name := (Naming.bracketFree_typescriptProperty h.name).wellNested
  type := wellNested_columnType engine o.strictNullChecks c
  docs := wellNested_columnDocs h engine o

end TypeScript

namespace Zod

include h

theorem wellNested_fieldComment (o : ZodOptions) : WellNested (fieldComment o c) := by
  unfold fieldComment
  split
  · rename_i doc hdoc
    exact WellNested.append (by decide) (Naming.bracketFree_commentText (h.doc hdoc)).wellNested
  · decide

theorem wellNested_fieldLine (engine : Engine) (o : ZodOptions) :
    WellNested (fieldLine engine o c) := by
  have hname := (Naming.bracketFree_typescriptProperty h.name).wellNested
  have hfield : WellNested
      (Naming.typescriptProperty c.name ++ ": " ++ (fieldChain engine o c).text) :=
    (hname.append (by decide)).append (wellNested_fieldChain engine o c)
  exact (hfield.append (by decide)).append (wellNested_fieldComment h o)

end Zod

end Members

/-! ## Lines around a declaration -/

namespace TypeScript

theorem nested_aliasLine (exported : Bool) {utility name : String} (hutility : WellNested utility)
    (hname : WellNested name) : Fragment.Nested [aliasLine exported utility name] := by
  have hmark : WellNested (if exported then "export " else "") := by
    split <;> decide
  have hopen : Leaves [] "<" ['>'] := by decide
  have hstart := ((((hmark.append (by decide : WellNested "type ")).append hutility).append
    hname).append (by decide : WellNested " = ")).append hutility
  exact Fragment.nested_line (hname.enclose (Leaves.append hstart hopen) (by decide))

theorem nested_aliasLines (o : TypeScriptOptions) {name : String} (hname : WellNested name) :
    Fragment.Nested (aliasLines o name) := by
  have hblank : Fragment.Nested (if o.partialType || o.readonlyType then [.blank] else []) := by
    split
    · exact Fragment.nested_blank
    · exact Fragment.nested_nil
  have hpartial : Fragment.Nested
      (if o.partialType then [aliasLine o.exportAllTypes "Partial" name] else []) := by
    split
    · exact nested_aliasLine _ (by decide) hname
    · exact Fragment.nested_nil
  refine (hblank.append hpartial).append ?_
  split
  · exact nested_aliasLine _ (by decide) hname
  · exact Fragment.nested_nil

end TypeScript

theorem Zod.nested_schemaFragments {context : Context} (o : ZodOptions) {columns : List Column}
    (hname : WellNested context.typeName) (hcolumns : ∀ c ∈ columns, c.BracketFree) :
    Fragment.Nested (schemaFragments context o columns) := by
  have hexport : WellNested ("export const " ++ context.typeName) :=
    WellNested.append (by decide) hname
  have hopen : Leaves [] "Schema = z.object(\x7b" ['}', ')'] := by decide
  have hclose : Leaves ['}', ')'] "\x7d).strict();" [] := by decide
  have hbody : Fragment.Nested (columns.map fun c => .line (fieldLine context.engine o c)) := by
    apply Fragment.nested_map
    intro c hc
    exact Fragment.nested_line (wellNested_fieldLine (hcolumns c hc) context.engine o)
  have hblock : Fragment.Nested
      [.block (schemaHeader context.typeName)
        (columns.map fun c => .line (fieldLine context.engine o c)) (some "\x7d).strict();")] :=
    Fragment.nested_block (Leaves.append hexport hopen) hbody hclose
  have halias : Fragment.Nested [.line (inferredAlias context.typeName)] := by
    have hstart : WellNested ("export type " ++ context.typeName) :=
      WellNested.append (by decide) hname
    have hinfer : Leaves [] " = z.infer<typeof " ['>'] := by decide
    exact Fragment.nested_line (hname.enclose (Leaves.append hstart hinfer) (by decide))
  unfold schemaFragments
  cases o.exportAllTypes with
  | false => exact hblock
  | true => exact hblock.append (Fragment.nested_blank.append halias)

/-! ## Units -/

namespace Configured

theorem nested_fragments (c : Configured) {context : Context} {columns : List Column}
    (htable : BracketFree context.table) (hname : WellNested context.typeName)
    (hcolumns : ∀ column ∈ columns, column.BracketFree) :
    Fragment.Nested (c.fragments context columns) := by
  cases c with
  | javaDto o =>
      apply Java.ClassDecl.nested_fragments
      · exact hname
      · exact Java.wellNested_classAnnotations o
      · exact forall_mem_if o.serializable (by decide)
      · intro f hf
        rcases List.mem_map.mp hf with ⟨column, hcolumn, rfl⟩
        exact Java.nested_columnField (hcolumns column hcolumn) _ _ _
  | javaRecord o =>
      apply Java.RecordDecl.nested_fragments
      · exact hname
      · exact forall_mem_if o.builder (by decide)
      · intro f hf
        rcases List.mem_map.mp hf with ⟨column, hcolumn, rfl⟩
        exact Java.nested_columnField (hcolumns column hcolumn) _ _ _
  | javaMapperXml o => exact Mapper.nested_documentFragments o hcolumns htable
  | javaMapperInterface o => exact Mapper.nested_interfaceFragments o hcolumns htable
  | csharpDto o =>
      apply CSharp.TypeDecl.nested_fragments
      · exact hname
      · intro m hm
        rcases List.mem_map.mp hm with ⟨column, hcolumn, rfl⟩
        exact CSharp.nested_classMember (hcolumns column hcolumn) _ o
  | csharpRecord o =>
      show Fragment.Nested (if o.positional then _ else _)
      split
      · apply CSharp.PositionalRecord.nested_fragments
        · exact hname
        · intro parameter hparameter
          rcases List.mem_map.mp hparameter with ⟨column, hcolumn, rfl⟩
          exact CSharp.nested_recordParameter (hcolumns column hcolumn) _ o
      · apply CSharp.TypeDecl.nested_fragments
        · exact hname
        · intro m hm
          rcases List.mem_map.mp hm with ⟨column, hcolumn, rfl⟩
          exact CSharp.nested_recordMember (hcolumns column hcolumn) _ o
  | typescript kind o =>
      apply Fragment.Nested.append
      · apply TypeScript.ObjectDecl.nested_fragments
        · exact hname
        · intro property hproperty
          rcases List.mem_map.mp hproperty with ⟨column, hcolumn, rfl⟩
          exact TypeScript.nested_columnProperty (hcolumns column hcolumn) _ o
      · exact TypeScript.nested_aliasLines o hname
  | typescriptZod o => exact Zod.nested_schemaFragments o hname hcolumns

/-- **Every unit is well nested.** For every target and all its options, columns
in ascending order yield a source in which every closing bracket matches the
most recent open one and none stays open, provided that the names and comments
of the request have no brackets of their own. -/
theorem generate_wellNested (c : Configured) (engine : Engine) {table : String}
    {affixes : Naming.Affixes} {columns : List Column} (htable : BracketFree table)
    (hbefore : BracketFree affixes.before) (hafter : BracketFree affixes.after)
    (hcolumns : ∀ column ∈ columns, column.BracketFree) (hascending : Ascending columns) :
    ∃ source, c.generate (.of table engine affixes) (columns.map .ok) = .ok source ∧
      WellNested source := by
  refine ⟨_, c.generate_of_ascending _ hascending, ?_⟩
  have hname := (Naming.bracketFree_typeName hbefore hafter htable).wellNested
  have hnested : Fragment.Nested (c.fragments (.of table engine affixes) columns) :=
    c.nested_fragments htable hname hcolumns
  rw [source, Fragment.print_eq]
  exact hnested c.indent 0

/-- A key and an array over a union of types, whose raw types have brackets of
their own, in an interface with type comments and an alias. -/
theorem union_array_wellNested :
    let options : TypeScriptOptions :=
      { TypeScriptOptions.table.unset with jsDocComments := true, partialType := true }
    let affixes : Naming.Affixes := ⟨"Db", "Row"⟩
    let columns : List Column :=
      [(Column.new 1 "id" "numeric(10, 2)").asKey,
       (Column.new 2 "seen_at" "timestamp(3)[]").withComment "latest * / first"]
    BracketFree "user_visit" ∧ BracketFree affixes.before ∧ BracketFree affixes.after ∧
      (∀ column ∈ columns, column.BracketFree) ∧ Ascending columns ∧
      ∃ source, (typescript .interface options).generate (.of "user_visit" .postgres affixes)
        (columns.map .ok) = .ok source ∧ WellNested source := by
  intro options affixes columns
  have htable : BracketFree "user_visit" := by decide
  have hbefore : BracketFree affixes.before := by decide
  have hafter : BracketFree affixes.after := by decide
  have hcolumns : ∀ column ∈ columns, column.BracketFree := by decide
  have hascending : Ascending columns := by decide
  exact ⟨htable, hbefore, hafter, hcolumns, hascending,
    generate_wellNested (typescript .interface options) .postgres htable hbefore hafter hcolumns
      hascending⟩

end Configured

end SchemaCodegen
