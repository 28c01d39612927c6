import SchemaCodegen.Proofs.Emission.Partition
import SchemaCodegen.Proofs.TypeMap.Expressions
import SchemaCodegen.Proofs.TypeMap.Marks

/-!
# Marks of nullable columns

A nullable column has one question mark behind its C# type, if marks are wanted,
and every other column has none. In TypeScript a nullable column has a union with
`null` for its type or a question mark behind its name, and a comment above it
shows the type that it has.
-/

namespace SchemaCodegen

/-! ## C# -/

namespace CSharp

/-- A column has one mark behind its type, or none. -/
theorem columnType_eq (engine : Engine) (nullable : Bool) (c : Column) :
    columnType engine nullable c =
      if nullable && c.isNullable then TypeTable.csharp.mapType engine c.rawType ++ "?"
      else TypeTable.csharp.mapType engine c.rawType := by
  rw [columnType, CSharpType.markNullable_mapType]

/-- Whatever a column is declared as, the type of the column is printed in front of the name. -/
structure ShowsType (engine : Engine) (c : Column) : Prop where
  inClass (o : CSharpDtoOptions) (unit : Indent) (depth : Nat) :
    Fragment.renderAll unit depth (TypeDecl.memberLines (classMember engine o c)) =
      String.join (((columnAttributes o.jsonPropertyName c).map (·.text) ++
        ["public " ++ columnType engine o.nullable c ++ " " ++
          Naming.csharpProperty c.name o.camelCaseProperties ++
          accessors o.getter o.setter]).map (unit.lineAt depth))
  inRecord (o : CSharpRecordOptions) (unit : Indent) (depth : Nat) :
    Fragment.renderAll unit depth (TypeDecl.memberLines (recordMember engine o c)) =
      String.join (((columnAttributes o.jsonPropertyName c).map (·.text) ++
        ["public " ++ columnType engine o.nullable c ++ " " ++
          Naming.csharpProperty c.name o.camelCaseProperties ++
          if o.withInit then " \x7b get; init; \x7d" else " \x7b get; set; \x7d"]).map
            (unit.lineAt depth))
  asParameter (o : CSharpRecordOptions) (separator : String) (unit : Indent) (depth : Nat) :
    Fragment.render unit depth
        (PositionalRecord.parameterLine (recordParameter engine o c, separator)) =
      unit.lineAt depth
        (String.join ((columnAttributes o.jsonPropertyName c).map fun a =>
            a.targeted "property" ++ " ") ++
          columnType engine o.nullable c ++ " " ++
          Naming.csharpProperty c.name o.camelCaseProperties ++ separator)

theorem showsType (engine : Engine) (c : Column) : ShowsType engine c where
  inClass _ unit depth := renderAll_memberLines unit depth _
  inRecord _ unit depth := renderAll_memberLines unit depth _
  asParameter _ _ _ _ := rfl

end CSharp

/-! ## TypeScript -/

namespace TypeScript

theorem columnType_eq (engine : Engine) (strict : Bool) (c : Column) :
    columnType engine strict c =
      if c.isNullable && strict then TypeTable.typescript.mapType engine c.rawType ++ " | null"
      else TypeTable.typescript.mapType engine c.rawType := by
  rw [columnType]
  split
  · rfl
  · exact String.append_empty

/-- The first comment shows the type, if types are shown. -/
theorem prefix_columnDocs (engine : Engine) {o : TypeScriptOptions} (h : o.jsDocComments = true)
    (c : Column) :
    ["@type \x7b" ++ columnType engine o.strictNullChecks c ++ "\x7d"] <+:
      columnDocs engine o c := by
  rw [columnDocs, if_pos h]
  exact List.prefix_append _ _

end TypeScript

/-- **Nullable columns are marked, and no others.** A C# type of the table has no question mark, and
a nullable column has one behind it if marks are wanted; so it is printed in front of the name of a
property or of a parameter. Any text is marked at its end and nowhere else, a value type with a
single mark, and marking it again changes nothing. A TypeScript property is optional exactly if the
options say so or the column is nullable without null checks. Its type is that of the column, which
is read as a type, an array over its whole element if it is one, or with null checks the union of
that type and `null`. It is printed behind the name and the mark, and a comment shows it as it
is. -/
theorem null_marks_exact :
    (∀ (engine : Engine) (c : Column),
      let type := TypeTable.csharp.mapType engine c.rawType
      '?' ∉ type.toList ∧
        CSharp.columnType engine true c = (if c.isNullable then type ++ "?" else type) ∧
        CSharp.columnType engine false c = type ∧
        CSharp.ShowsType engine c) ∧
    (∀ type : String,
      let marked := CSharpType.markNullable type
      CSharpType.markNullable marked = marked ∧ ['?'] <:+ marked.toList ∧
        CSharpType.withoutMarks marked = CSharpType.withoutMarks type ∧
        (CSharpType.isValueType type = true →
          ∃ bare : String, marked = bare ++ "?" ∧ ¬ ['?'] <:+ bare.toList)) ∧
    ∀ (engine : Engine) (o : TypeScriptOptions) (c : Column),
      let type := TypeTable.typescript.mapType engine c.rawType
      let p := TypeScript.columnProperty engine o c
      (p.isOptional = true ↔
        o.optionalProperties = true ∨ c.isNullable = true ∧ o.strictNullChecks = false) ∧
      p.type = (if c.isNullable && o.strictNullChecks then type ++ " | null" else type) ∧
      (∃ t, TypeExpr.ofText? type = some t ∧
        TypeExpr.ofText? (type ++ " | null") = some (.union t (.name "null")) ∧
        (TypeName.isArray engine c.rawType = true → ∃ element,
          TypeExpr.ofText? (TypeTable.typescript.scalar engine
            (TypeName.scalarName engine c.rawType)) = some element ∧ t = .array element)) ∧
      (o.jsDocComments = true → ["@type \x7b" ++ p.type ++ "\x7d"] <+: p.docs) ∧
      ∀ unit depth, Fragment.renderAll unit depth p.lines =
        String.join ((p.docs.map Fragment.docLine ++
          [(if p.readonly then "readonly " else "") ++ p.name ++
            (if p.isOptional then "?" else "") ++ ": " ++ p.type ++ ";"]).map
              (unit.lineAt depth)) := by
  refine ⟨?_, ?_, ?_⟩
  · intro engine c type
    refine ⟨TypeTable.mark_not_mem_csharp engine c.rawType, ?_, ?_, CSharp.showsType engine c⟩
    · rw [CSharp.columnType_eq, Bool.true_and]
    · rw [CSharp.columnType_eq, Bool.false_and]
      rfl
  · intro type marked
    refine ⟨CSharpType.markNullable_markNullable type, CSharpType.suffix_markNullable type,
      CSharpType.withoutMarks_markNullable type, ?_⟩
    intro hvalue
    exact ⟨CSharpType.withoutMarks type, if_pos hvalue, CSharpType.not_suffix_withoutMarks type⟩
  · intro engine o c type p
    obtain ⟨t, htype, harray⟩ := TypeExpr.exists_ofText?_mapType engine c.rawType
    refine ⟨?_, TypeScript.columnType_eq engine o.strictNullChecks c,
      ⟨t, htype, TypeExpr.ofText?_append_null htype, harray⟩, ?_,
      TypeScript.renderAll_propertyLines p⟩
    · show (o.optionalProperties || (c.isNullable && !o.strictNullChecks)) = true ↔ _
      simp
    · intro hdocs
      exact TypeScript.prefix_columnDocs engine hdocs c

/-- Moments in an array, nullable and shown, and an identifier that is marked more than once. -/
theorem moments_marked :
    let column := (Column.new 1 "seen_at" "_timestamptz").asNullable
    let o : TypeScriptOptions :=
      { TypeScriptOptions.table.unset with strictNullChecks := true, jsDocComments := true }
    let p := TypeScript.columnProperty .postgres o column
    CSharp.columnType .postgres true column = "DateTimeOffset[]?" ∧
      (∃ bare : String, CSharpType.markNullable "Guid??" = bare ++ "?" ∧ ¬ ['?'] <:+ bare.toList) ∧
      p.isOptional = false ∧ p.type = "(string | Date)[] | null" ∧
      ["@type \x7b(string | Date)[] | null\x7d"] <+: p.docs ∧
      ∃ t, TypeExpr.ofText? "(string | Date)[] | null" = some (.union t (.name "null")) ∧
        ∃ element, t = .array element := by
  intro column o p
  obtain ⟨hcsharp, hmarks, htypescript⟩ := null_marks_exact
  have hshown : TypeTable.csharp.mapType .postgres column.rawType = "DateTimeOffset[]" := by
    decide
  have htype : TypeTable.typescript.mapType .postgres column.rawType = "(string | Date)[]" := by
    decide
  obtain ⟨-, hnullable, -, -⟩ := hcsharp .postgres column
  obtain ⟨hoptional, hunion, ⟨t, -, hread, harray⟩, hdocs, -⟩ := htypescript .postgres o column
  rw [htype] at hunion hread
  have hdoc := hdocs rfl
  rw [hunion] at hdoc
  obtain ⟨element, -, ht⟩ := harray (by decide)
  refine ⟨?_, (hmarks "Guid??").2.2.2 (by decide), ?_, hunion, hdoc, t, hread, element, ht⟩
  · rw [hnullable, hshown]
    rfl
  · rw [← Bool.not_eq_true]
    intro hmark
    rcases hoptional.mp hmark with hall | ⟨-, hloose⟩
    · cases hall
    · cases hloose

end SchemaCodegen
