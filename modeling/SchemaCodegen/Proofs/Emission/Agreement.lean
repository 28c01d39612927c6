import SchemaCodegen.Proofs.Emission.Partition
import SchemaCodegen.Proofs.Layout.Lines

/-!
# What the styles of a language agree on

A language has several styles, each with a declaration and a layout of its own:
a field on a line, a component before its comma, a parameter behind its
attribute. Here the lines of each style are written over the members of the
unit. A member is what a reader of the source sees of a column, and knows
nothing of the style. The styles of a language are laid out over the same
members, one per column and in the order of the columns, whatever the options
say that do not concern members.
-/

namespace SchemaCodegen

/-! ## Java -/

namespace Java

open Fragment

/-- What a class or a record shows of a column. -/
structure Member where
  /-- The lines of its annotations. -/
  annotations : List String
  type : String
  name : String
deriving DecidableEq, Repr

def member (engine : Engine) (swagger jackson : Bool) (c : Column) : Member where
  annotations := (columnAnnotations swagger jackson c).map (·.text)
  type := TypeTable.java.mapType engine c.rawType
  name := Naming.javaField c.name

/-- The lines of a member as a field. -/
def Member.fieldLines (m : Member) : List String :=
  (m.annotations ++ ["private " ++ m.type ++ " " ++ m.name ++ ";"]).map ("    " ++ ·)

/-- The lines of a member as a component, with the separator that follows it. -/
def Member.componentLines (m : Member × String) : List String :=
  (m.1.annotations ++ [m.1.type ++ " " ++ m.1.name ++ m.2]).map ("    " ++ ·)

def classLines (context : Context) (o : JavaDtoOptions) (members : List Member) : List String :=
  let header := (classStart context o).header
  (classAnnotations o).map (·.text) ++
    if members.isEmpty then [header ++ "\x7d"]
    else header :: (joinLines o.extraSpacing (members.map Member.fieldLines) ++ ["\x7d"])

def recordLines (context : Context) (o : JavaRecordOptions) (members : List Member) :
    List String :=
  (if o.builder then ["@Builder"] else []) ++
    if members.isEmpty then ["public record " ++ context.typeName ++ "() \x7b\x7d"]
    else
      ("public record " ++ context.typeName ++ "(") ::
        (joinLines o.extraSpacing ((withSeparators "," members).map Member.componentLines) ++
          [") \x7b\x7d"])

/-- A class is laid out over the members of its columns. -/
theorem allLines_classDecl (context : Context) (o : JavaDtoOptions) (columns : List Column) :
    allLines .four 0 (classDecl context o columns).fragments =
      classLines context o
        (columns.map (member context.engine o.swaggerAnnotations o.jacksonAnnotations)) := by
  have hfields : (classDecl context o columns).fields =
      columns.map (columnField context.engine o.swaggerAnnotations o.jacksonAnnotations) := rfl
  simp only [ClassDecl.allLines_fragments, classLines, hfields, List.map_map, List.isEmpty_map]
  rfl

/-- A record is laid out over the members of its columns. -/
theorem allLines_recordDecl (context : Context) (o : JavaRecordOptions) (columns : List Column) :
    allLines .four 0 (recordDecl context o columns).fragments =
      recordLines context o
        (columns.map (member context.engine o.swaggerAnnotations o.jacksonAnnotations)) := by
  have hannotations : (recordDecl context o columns).annotations.map (·.text) =
      if o.builder then ["@Builder"] else [] := by
    rw [recordDecl, recordStart]
    cases o.builder <;> rfl
  have hcomponents : (recordDecl context o columns).components =
      columns.map (columnField context.engine o.swaggerAnnotations o.jacksonAnnotations) := rfl
  simp only [RecordDecl.allLines_fragments, recordLines, hannotations, hcomponents,
    withSeparators_map, List.map_map, List.isEmpty_map]
  rfl

end Java

/-! ## C# -/

namespace CSharp

open Fragment

/-- What a class or a record shows of a column. -/
structure Property where
  /-- The name in JSON, if there is an attribute for it. -/
  jsonName : Option String
  type : String
  name : String
deriving DecidableEq, Repr

def property (engine : Engine) (nullable camelCase jsonNames : Bool) (c : Column) : Property where
  jsonName := if jsonNames then some c.name else none
  type := columnType engine nullable c
  name := Naming.csharpProperty c.name camelCase

def Property.attributes (p : Property) : List AttributeTag :=
  p.jsonName.toList.map .jsonPropertyName

/-- The lines of a property in a body. -/
def Property.bodyLines (accessors : String) (p : Property) : List String :=
  (p.attributes.map (·.text) ++ ["public " ++ p.type ++ " " ++ p.name ++ accessors]).map
    ("    " ++ ·)

/-- The line of a property as a parameter, with the separator that follows it. -/
def Property.parameterLine (p : Property × String) : String :=
  "    " ++ (String.join (p.1.attributes.map fun a => a.targeted "property" ++ " ") ++
    p.1.type ++ " " ++ p.1.name ++ p.2)

def importLines (properties : List Property) : List String :=
  if properties.any (·.jsonName.isSome) then ["using System.Text.Json.Serialization;", ""] else []

def bodyLines (keyword : TypeKeyword) (context : Context) (spaced : Bool) (accessors : String)
    (properties : List Property) : List String :=
  importLines properties ++
    ("public " ++ keyword.text ++ " " ++ context.typeName) :: "\x7b" ::
      (joinLines spaced (properties.map (Property.bodyLines accessors)) ++ ["\x7d"])

def positionalLines (context : Context) (spaced : Bool) (properties : List Property) :
    List String :=
  importLines properties ++
    if properties.isEmpty then ["public record " ++ context.typeName ++ "();"]
    else
      ("public record " ++ context.typeName ++ "(") ::
        (joinLines spaced
          ((withSeparators "," properties).map fun p => [Property.parameterLine p]) ++ [");"])

theorem flatMap_attributes_isEmpty (properties : List Property) :
    (properties.flatMap (·.attributes)).isEmpty = !properties.any (·.jsonName.isSome) := by
  induction properties with
  | nil => rfl
  | cons p rest ih =>
      rw [List.flatMap_cons, List.any_cons, Property.attributes]
      cases p.jsonName with
      | none => exact ih
      | some name => rfl

/-- The imports depend on whether there are attributes, and on nothing else. -/
theorem allLines_usingLines {attributes : List AttributeTag} {properties : List Property}
    (h : attributes = properties.flatMap (·.attributes)) :
    allLines .four 0 (usingLines attributes) = importLines properties := by
  have hempty := flatMap_attributes_isEmpty properties
  rw [← h] at hempty
  cases attributes with
  | nil =>
      have hnone : properties.any (·.jsonName.isSome) = false := by simpa using hempty.symm
      rw [importLines, hnone]
      rfl
  | cons a rest =>
      have hsome : properties.any (·.jsonName.isSome) = true := by simpa using hempty.symm
      rw [importLines, hsome, usingLines, namespaces_cons]
      rfl

theorem columnAttributes_eq (engine : Engine) (nullable camelCase jsonNames : Bool) (c : Column) :
    columnAttributes jsonNames c =
      (property engine nullable camelCase jsonNames c).attributes := by
  cases jsonNames <;> rfl

/-- A declaration with a body is laid out over the properties of its columns, if
its members are their properties with the accessors behind them. -/
theorem allLines_typeDecl {keyword : TypeKeyword} {context : Context} {spaced : Bool}
    {accessors : String} {member : Column → Member} {property : Column → Property}
    (hattributes : ∀ c, (member c).attributes = (property c).attributes)
    (hdeclaration : ∀ c, (member c).declaration =
      "public " ++ (property c).type ++ " " ++ (property c).name ++ accessors)
    (columns : List Column) :
    allLines .four 0 (TypeDecl.fragments ⟨keyword, context.typeName, columns.map member, spaced⟩) =
      bodyLines keyword context spaced accessors (columns.map property) := by
  have himports : allLines .four 0 (usingLines ((columns.map member).flatMap (·.attributes))) =
      importLines (columns.map property) := by
    apply allLines_usingLines
    simp only [List.flatMap_map, hattributes]
  have hbody : allLines .four 1
        (joinGroups spaced ((columns.map member).map TypeDecl.memberLines)) =
      joinLines spaced ((columns.map property).map (Property.bodyLines accessors)) := by
    simp only [allLines_joinGroups, List.map_map, Function.comp_def, memberLines_eq,
      allLines_map_line, Indent.atDepth_one, hattributes, hdeclaration]
    rfl
  rw [TypeDecl.fragments, allLines_append, himports, bodyLines]
  congr 1
  rw [allLines, allLines_block, hbody]
  rfl

/-- A class is laid out over the properties of its columns. -/
theorem allLines_classDecl (context : Context) (o : CSharpDtoOptions) (columns : List Column) :
    allLines .four 0 (classDecl context o columns).fragments =
      bodyLines .classType context o.extraSpacing (accessors o.getter o.setter)
        (columns.map
          (property context.engine o.nullable o.camelCaseProperties o.jsonPropertyName)) := by
  refine allLines_typeDecl ?_ ?_ columns
  · exact columnAttributes_eq context.engine o.nullable o.camelCaseProperties o.jsonPropertyName
  · intro c
    rfl

/-- What follows a property of a record with a body. -/
def recordAccessors (withInit : Bool) : String :=
  if withInit then " \x7b get; init; \x7d" else " \x7b get; set; \x7d"

/-- A record with a body is laid out over the properties of its columns. -/
theorem allLines_recordDecl (context : Context) (o : CSharpRecordOptions) (columns : List Column) :
    allLines .four 0 (recordDecl context o columns).fragments =
      bodyLines .record context o.extraSpacing (recordAccessors o.withInit)
        (columns.map
          (property context.engine o.nullable o.camelCaseProperties o.jsonPropertyName)) := by
  refine allLines_typeDecl ?_ ?_ columns
  · exact columnAttributes_eq context.engine o.nullable o.camelCaseProperties o.jsonPropertyName
  · intro c
    rfl

/-- A positional record is laid out over the properties of its columns. -/
theorem allLines_positionalRecord (context : Context) (o : CSharpRecordOptions)
    (columns : List Column) :
    allLines .four 0 (positionalRecord context o columns).fragments =
      positionalLines context o.extraSpacing
        (columns.map
          (property context.engine o.nullable o.camelCaseProperties o.jsonPropertyName)) := by
  let shown := property context.engine o.nullable o.camelCaseProperties o.jsonPropertyName
  have hattributes : ∀ c, columnAttributes o.jsonPropertyName c = (shown c).attributes :=
    columnAttributes_eq context.engine o.nullable o.camelCaseProperties o.jsonPropertyName
  have himports : allLines .four 0
        (usingLines ((positionalRecord context o columns).parameters.flatMap (·.attributes))) =
      importLines (columns.map shown) := by
    apply allLines_usingLines
    simp only [positionalRecord, List.flatMap_map, recordParameter, hattributes]
  have hline : ∀ c separator,
      ["    " ++ ((recordParameter context.engine o c).declared ++ separator)] =
        [Property.parameterLine (shown c, separator)] := by
    intro c separator
    rw [Parameter.declared, recordParameter, hattributes, Property.parameterLine]
    rfl
  have hparameters : (positionalRecord context o columns).parameters =
      columns.map (recordParameter context.engine o) := rfl
  rw [PositionalRecord.allLines_fragments, himports, positionalLines, hparameters,
    withSeparators_map, withSeparators_map, List.map_map, List.map_map, List.isEmpty_map,
    List.isEmpty_map]
  simp only [Function.comp_def, hline]
  rfl

end CSharp

/-! ## TypeScript -/

namespace TypeScript

open Fragment

def propertyLines (engine : Engine) (o : TypeScriptOptions) (c : Column) : List String :=
  let p := columnProperty engine o c
  (p.docs.map docLine ++
    [(if p.readonly then "readonly " else "") ++ p.name ++ (if p.isOptional then "?" else "") ++
      ": " ++ p.type ++ ";"]).map ("  " ++ ·)

/-- The lines of a declaration around those of its properties. The kind of declaration has a say
in the line that opens it and in the line that closes it. -/
def objectLines (kind : ObjectKind) (context : Context) (o : TypeScriptOptions)
    (properties : List (List String)) : List String :=
  let start := objectStart kind context o
  (if properties.isEmpty then [start.header ++ start.close]
    else start.header :: (joinLines o.extraSpacing properties ++ [start.close])) ++
    allLines .two 0 (aliasLines o context.typeName)

theorem allLines_map_doc (unit : Indent) (depth : Nat) (docs : List String) :
    allLines unit depth (docs.map .doc) =
      (docs.map docLine).map (unit.atDepth depth ++ ·) := by
  induction docs with
  | nil => rfl
  | cons s rest ih =>
      simp [allLines, ih, lines]

theorem allLines_propertyLines (engine : Engine) (o : TypeScriptOptions) (c : Column) :
    allLines .two 1 (columnProperty engine o c).lines = propertyLines engine o c := by
  rw [Property.lines, allLines_append, allLines_map_doc, propertyLines, List.map_append,
    Indent.atDepth_one]
  rfl

/-- A declaration of any kind is laid out around the properties of its columns. -/
theorem allLines_objectDecl (kind : ObjectKind) (context : Context) (o : TypeScriptOptions)
    (columns : List Column) :
    allLines .two 0
        ((objectDecl kind context o columns).fragments ++ aliasLines o context.typeName) =
      objectLines kind context o (columns.map (propertyLines context.engine o)) := by
  have hbody : allLines .two 1 (joinGroups o.extraSpacing
        ((objectDecl kind context o columns).properties.map Property.lines)) =
      joinLines o.extraSpacing (columns.map (propertyLines context.engine o)) := by
    simp [objectDecl, Function.comp_def, allLines_propertyLines]
  have hnone : (objectDecl kind context o columns).properties.isEmpty =
      (columns.map (propertyLines context.engine o)).isEmpty := by
    simp [objectDecl]
  rw [allLines_append, ObjectDecl.fragments, allLines_line_or_block, objectLines, ← hbody, hnone]
  rfl

end TypeScript

/-! ## Units -/

namespace Configured

variable (context : Context) {columns : List Column}

theorem generate_eq_unlines (c : Configured) {shown : List String} (h : Ascending columns)
    (hlines : Fragment.allLines c.indent 0 (c.fragments context columns) = shown) :
    c.generate context (columns.map .ok) = .ok (unlines shown) := by
  rw [c.generate_of_ascending context h, source, Fragment.print_eq_unlines, hlines]

/-- **The styles of a language lay out the same members.** A Java class and a Java record agree
on the annotations, the type and the name of every column, if the flags for annotations agree.
A C# class, a record with a body and a positional record agree on the name in JSON, the type and
the name, if the flags for types and names agree. TypeScript declarations of the three kinds
have the same lines for every property, between the line that opens the declaration and the one
that closes it. -/
theorem styles_share_members (h : Ascending columns) :
    (∀ swagger jackson,
      let members := columns.map (Java.member context.engine swagger jackson)
      (∀ o : JavaDtoOptions, o.swaggerAnnotations = swagger → o.jacksonAnnotations = jackson →
        (javaDto o).generate context (columns.map .ok) =
          .ok (unlines (Java.classLines context o members))) ∧
      ∀ o : JavaRecordOptions, o.swaggerAnnotations = swagger → o.jacksonAnnotations = jackson →
        (javaRecord o).generate context (columns.map .ok) =
          .ok (unlines (Java.recordLines context o members))) ∧
    (∀ nullable camelCase jsonNames,
      let properties :=
        columns.map (CSharp.property context.engine nullable camelCase jsonNames)
      (∀ o : CSharpDtoOptions, o.nullable = nullable → o.camelCaseProperties = camelCase →
        o.jsonPropertyName = jsonNames →
        (csharpDto o).generate context (columns.map .ok) =
          .ok (unlines (CSharp.bodyLines .classType context o.extraSpacing
            (CSharp.accessors o.getter o.setter) properties))) ∧
      ∀ o : CSharpRecordOptions, o.nullable = nullable → o.camelCaseProperties = camelCase →
        o.jsonPropertyName = jsonNames →
        (csharpRecord o).generate context (columns.map .ok) =
          .ok (unlines
            (if o.positional then CSharp.positionalLines context o.extraSpacing properties
            else CSharp.bodyLines .record context o.extraSpacing
              (CSharp.recordAccessors o.withInit) properties))) ∧
    ∀ o : TypeScriptOptions,
      let properties := columns.map (TypeScript.propertyLines context.engine o)
      ∀ kind, (typescript kind o).generate context (columns.map .ok) =
        .ok (unlines (TypeScript.objectLines kind context o properties)) := by
  -- every unit is put in lines over its members, and the lists of members are the same
  refine ⟨?_, ?_, ?_⟩
  · rintro swagger jackson
    refine ⟨?_, ?_⟩
    · rintro o rfl rfl
      exact (javaDto o).generate_eq_unlines context h (Java.allLines_classDecl context o columns)
    · rintro o rfl rfl
      exact (javaRecord o).generate_eq_unlines context h
        (Java.allLines_recordDecl context o columns)
  · rintro nullable camelCase jsonNames
    refine ⟨?_, ?_⟩
    · rintro o rfl rfl rfl
      exact (csharpDto o).generate_eq_unlines context h
        (CSharp.allLines_classDecl context o columns)
    · rintro o rfl rfl rfl
      apply (csharpRecord o).generate_eq_unlines context h
      rw [fragments]
      split
      · exact CSharp.allLines_positionalRecord context o columns
      · exact CSharp.allLines_recordDecl context o columns
  · intro o properties kind
    exact (typescript kind o).generate_eq_unlines context h
      (TypeScript.allLines_objectDecl kind context o columns)

/-- A reserved word and a nullable array, as fields, as components and as parameters. -/
theorem reserved_word_in_every_style :
    let context : Context := ⟨"order_line", "OrderLine", .postgres⟩
    let columns := [(Column.new 1 "class" "uuid").withComment "kind of line",
      (Column.new 2 "price_list" "int4[]").asNullable]
    Ascending columns ∧
      (javaDto ⟨false, false, false, false, false, false, false, true, true, true⟩).generate
          context (columns.map .ok) =
        .ok ("public class OrderLine \x7b\n    @Schema(description = \"kind of line\")\n" ++
          "    @JsonProperty(\"class\")\n    private UUID class_;\n\n" ++
          "    @JsonProperty(\"priceList\")\n    private Integer[] priceList;\n\x7d\n") ∧
      (javaRecord ⟨false, true, true, false⟩).generate context (columns.map .ok) =
        .ok ("public record OrderLine(\n    @Schema(description = \"kind of line\")\n" ++
          "    @JsonProperty(\"class\")\n    UUID class_,\n" ++
          "    @JsonProperty(\"priceList\")\n    Integer[] priceList\n) \x7b\x7d\n") ∧
      (csharpDto ⟨false, false, true, true, true, false⟩).generate context (columns.map .ok) =
        .ok ("using System.Text.Json.Serialization;\n\npublic class OrderLine\n\x7b\n" ++
          "    [JsonPropertyName(\"class\")]\n    public Guid @class;\n" ++
          "    [JsonPropertyName(\"price_list\")]\n    public int[]? priceList;\n\x7d\n") ∧
      (csharpRecord ⟨true, true, true, true, true, false⟩).generate context (columns.map .ok) =
        .ok ("using System.Text.Json.Serialization;\n\npublic record OrderLine(\n" ++
          "    [property: JsonPropertyName(\"class\")] Guid @class,\n" ++
          "    [property: JsonPropertyName(\"price_list\")] int[]? priceList\n);\n") := by
  intro context columns
  have hascending : Ascending columns := by decide
  obtain ⟨hjava, hcsharp, -⟩ := styles_share_members context hascending
  obtain ⟨hclass, hrecord⟩ := hjava true true
  obtain ⟨hbody, hpositional⟩ := hcsharp true true true
  refine ⟨hascending, (hclass _ rfl rfl).trans (congrArg Except.ok ?_),
    (hrecord _ rfl rfl).trans (congrArg Except.ok ?_),
    (hbody _ rfl rfl rfl).trans (congrArg Except.ok ?_),
    (hpositional _ rfl rfl rfl).trans (congrArg Except.ok ?_)⟩
  · decide +kernel
  · decide +kernel
  · decide +kernel
  · decide +kernel

end Configured

end SchemaCodegen
