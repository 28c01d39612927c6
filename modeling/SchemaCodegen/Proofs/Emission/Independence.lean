import SchemaCodegen.Proofs.Emission.Partition
import SchemaCodegen.Proofs.TypeMap.Marks

/-!
# Independence of columns

The block of a column has exactly one line that declares something: the lines
above it start with the mark of the language's annotations, attributes or
comments, and the last line does not. With the partition of a unit this gives
the main statement: a column puts its own declaration into its own block, and
putting another column with the same ordinal in its place changes that block
and nothing else.
-/

namespace SchemaCodegen

/-! ## How lines start -/

/-- Whether the text starts with the other one. -/
def startsWith (lead s : String) : Bool := lead.toList.isPrefixOf s.toList

theorem startsWith_append {lead s : String} (h : startsWith lead s = true) (t : String) :
    startsWith lead (s ++ t) = true := by
  have hlead : lead.toList <+: s.toList := List.isPrefixOf_iff_prefix.mp h
  rw [startsWith, String.toList_append]
  apply List.isPrefixOf_iff_prefix.mpr
  exact hlead.trans (List.prefix_append s.toList t.toList)

/-- A text starts with nothing whose first character is out of the class of its own. -/
theorem startsWith_eq_false {p : Char → Bool} {lead s : String}
    (hlead : leadsWith (fun c => !p c) lead = true) (h : leadsWith p s = true) :
    startsWith lead s = false := by
  obtain ⟨first, after, hfirst, hout⟩ := leadsWith_iff.mp hlead
  obtain ⟨c, rest, hs, hc⟩ := leadsWith_iff.mp h
  -- one first character is in the class, the other is not
  have hne : (first == c) = false := by
    apply Bool.eq_false_iff.mpr
    intro heq
    rw [← beq_iff_eq.mp heq] at hc
    rw [hc] at hout
    cases hout
  rw [startsWith, hfirst, hs, List.isPrefixOf, hne, Bool.false_and]

theorem Java.startsWith_annotation (tag : AnnotationTag) : startsWith "@" tag.text = true := by
  cases tag with
  | schema description =>
      exact startsWith_append (startsWith_append (s := "@Schema(description = ") (by decide) _) _
  | jsonProperty name =>
      exact startsWith_append (startsWith_append (s := "@JsonProperty(") (by decide) _) _
  | _ => decide

theorem CSharp.startsWith_attribute (a : AttributeTag) :
    startsWith "[JsonPropertyName(" a.text = true := by
  cases a with
  | jsonPropertyName name =>
      show startsWith _ ("[" ++ ("JsonPropertyName(" ++ _ ++ ")") ++ "]") = true
      have hstart : startsWith "[JsonPropertyName(" ("[" ++ "JsonPropertyName(") = true := by decide
      have hbody := startsWith_append (startsWith_append hstart
        (Text.literal Text.escapeQuote name)) ")"
      refine startsWith_append ?_ "]"
      simpa only [String.append_assoc] using hbody

theorem startsWith_docLine (doc : String) : startsWith "/**" (Fragment.docLine doc) = true :=
  startsWith_append (startsWith_append (s := "/** ") (by decide) doc) " */"

/-- An attribute in the line of its parameter names its target first. -/
theorem CSharp.startsWith_targeted (a : AttributeTag) (t : String) :
    startsWith "[JsonPropertyName(" (a.targeted "property" ++ t) = false := by
  simp only [startsWith, AttributeTag.targeted, String.toList_append]
  rfl

/-- A character that starts no annotation, no attribute and no comment. -/
def startsMember (c : Char) : Bool := c != '@' && c != '[' && c != '/'

theorem startsMember_of {p : Char → Bool}
    (hp : p '@' = false ∧ p '[' = false ∧ p '/' = false) {c : Char} (h : p c = true) :
    startsMember c = true := by
  have hne : ∀ d, p d = false → (c != d) = true := by
    intro d hd
    apply bne_iff_ne.mpr
    intro heq
    rw [heq, hd] at h
    cases h
  obtain ⟨hat, hbracket, hslash⟩ := hp
  rw [startsMember, hne '@' hat, hne '[' hbracket, hne '/' hslash]
  rfl

theorem leadsWith_startsMember {p : Char → Bool}
    (hp : p '@' = false ∧ p '[' = false ∧ p '/' = false) {s : String}
    (h : leadsWith p s = true) : leadsWith startsMember s = true := by
  obtain ⟨c, rest, hs, hc⟩ := leadsWith_iff.mp h
  apply leadsWith_iff.mpr
  exact ⟨c, rest, hs, startsMember_of hp hc⟩

/-- A property in TypeScript starts as an identifier or with its quote. -/
theorem Naming.typescriptProperty_leadsWith (column : String) :
    leadsWith startsMember (typescriptProperty column) = true := by
  simp only [typescriptProperty]
  split
  · rename_i hidentifier
    cases hname : (camel column).toList with
    | nil => rw [hname] at hidentifier; cases hidentifier
    | cons c cs =>
        rw [hname, isIdentifier, Bool.and_eq_true] at hidentifier
        have hmarks : startsIdentifier '@' = false ∧ startsIdentifier '[' = false ∧
            startsIdentifier '/' = false := by decide +kernel
        apply leadsWith_iff.mpr
        exact ⟨c, cs, hname, startsMember_of hmarks hidentifier.1⟩
  · apply leadsWith_iff.mpr
    refine ⟨'"', (camel column).toList.flatMap Text.escapeQuote ++ ['"'], ?_, by decide⟩
    rw [Text.literal, String.toList_ofList, Text.literalChars]
    rfl

namespace Configured

/-! ## Decorations and declarations -/

/-- How the lines above a declaration start. -/
def mark : Configured → String
  | .csharpDto _ | .csharpRecord _ => "[JsonPropertyName("
  | .typescript .. | .typescriptZod _ => "/**"
  | _ => "@"

/-- Whether a line is an annotation, an attribute or a comment of its own. -/
def isDecoration (c : Configured) (s : String) : Bool := startsWith c.mark s

theorem isDecoration_eq_false (c : Configured) {s : String}
    (h : leadsWith startsMember s = true) : c.isDecoration s = false := by
  have hmarks : ∀ lead ∈ ["@", "[JsonPropertyName(", "/**"],
      leadsWith (fun first => !startsMember first) lead = true := by decide
  refine startsWith_eq_false (hmarks c.mark ?_) h
  cases c <;> simp only [mark, List.mem_cons, true_or, or_true]

theorem isDecoration_decorations (c : Configured) (engine : Engine) (column : Column) :
    ∀ s ∈ c.decorations engine column, c.isDecoration s = true := by
  have hannotations : ∀ tags : List Java.AnnotationTag, ∀ s ∈ tags.map (·.text),
      startsWith "@" s = true := by
    intro tags s hs
    rcases List.mem_map.mp hs with ⟨tag, -, rfl⟩
    exact Java.startsWith_annotation tag
  have hattributes : ∀ tags : List CSharp.AttributeTag, ∀ s ∈ tags.map (·.text),
      startsWith "[JsonPropertyName(" s = true := by
    intro tags s hs
    rcases List.mem_map.mp hs with ⟨tag, -, rfl⟩
    exact CSharp.startsWith_attribute tag
  intro s hs
  cases c with
  | javaDto o => exact hannotations _ s hs
  | javaRecord o => exact hannotations _ s hs
  | csharpDto o => exact hattributes _ s hs
  | csharpRecord o =>
      -- a parameter has its attributes in its own line
      by_cases hform : o.positional = true
      · rw [decorations, if_pos hform] at hs
        cases hs
      · rw [decorations, if_neg hform] at hs
        exact hattributes _ s hs
  | typescript kind o =>
      rcases List.mem_map.mp hs with ⟨doc, -, rfl⟩
      exact startsWith_docLine doc
  | javaMapperXml o => cases hs
  | javaMapperInterface o => cases hs
  | typescriptZod o => cases hs

/-- The type of a C# member starts with a letter that starts no import. -/
theorem csharp_memberType_leadsWith {c : Configured} (h : c.isCSharp = true) (engine : Engine)
    (column : Column) :
    leadsWith TypeTable.startsNoImport (c.memberType engine column) = true := by
  have htype := TypeTable.csharp_leadsWith engine column.rawType
  have hmarked := leadsWith_append htype "?"
  rw [← CSharpType.markNullable_mapType] at hmarked
  have hadmitted : ∀ nullable : Bool, leadsWith TypeTable.startsNoImport
      (if nullable && column.isNullable then
        CSharpType.markNullable (TypeTable.csharp.mapType engine column.rawType)
      else TypeTable.csharp.mapType engine column.rawType) = true := by
    intro nullable
    split
    · exact hmarked
    · exact htype
  cases c with
  | csharpDto o => exact hadmitted o.nullable
  | csharpRecord o => exact hadmitted o.nullable
  | _ => cases h

/-- A member of a record starts with its access, a parameter with its attribute
or, without one, with its type. -/
theorem csharpRecord_declaration (o : CSharpRecordOptions) (isLast : Bool) (column : Column)
    (name type : String) :
    let declared := (csharpRecord o).declaration isLast column name type
    ∃ rest, declared = "public " ++ rest ∨
      (∃ a : CSharp.AttributeTag, declared = a.targeted "property" ++ rest) ∨
      declared = type ++ rest := by
  intro declared
  have hattribute : String.join ((CSharp.columnAttributes o.jsonPropertyName column).map fun a =>
      a.targeted "property" ++ " ") = if o.jsonPropertyName then
        (CSharp.AttributeTag.jsonPropertyName column.name).targeted "property" ++ " " else "" := by
    -- a column has one attribute or none
    rw [CSharp.columnAttributes]
    split
    · simp
    · rfl
  by_cases hform : o.positional = true
  · have hdeclared : declared = (if o.jsonPropertyName then
        (CSharp.AttributeTag.jsonPropertyName column.name).targeted "property" ++ " " else "") ++
        (type ++ (" " ++ (name ++ if isLast then "" else ","))) := by
      simp only [declared, declaration, if_pos hform, hattribute, String.append_assoc]
    by_cases hnames : o.jsonPropertyName = true
    · rw [if_pos hnames, String.append_assoc] at hdeclared
      exact ⟨_, Or.inr (Or.inl ⟨_, hdeclared⟩)⟩
    · rw [if_neg hnames, String.empty_append] at hdeclared
      exact ⟨_, Or.inr (Or.inr hdeclared)⟩
  · have hdeclared : declared = "public " ++ (type ++ (" " ++ (name ++
        if o.withInit then " \x7b get; init; \x7d" else " \x7b get; set; \x7d"))) := by
      simp only [declared, declaration, if_neg hform, String.append_assoc]
    exact ⟨_, Or.inl hdeclared⟩

/-- The line that declares a member is no decoration. -/
theorem isDecoration_declaration (c : Configured) (h : c.isMapper = false) (engine : Engine)
    (isLast : Bool) (column : Column) :
    c.isDecoration
      (c.declaration isLast column (c.memberName column.name) (c.memberType engine column)) =
        false := by
  have hprivate : leadsWith startsMember "private " = true := by decide
  have hpublic : leadsWith startsMember "public " = true := by decide
  have hreadonly : leadsWith startsMember "readonly " = true := by decide
  have hproperty := Naming.typescriptProperty_leadsWith column.name
  -- each declaration starts with a keyword, the mapped type or the member's name
  cases c with
  | javaDto o =>
      apply isDecoration_eq_false
      simp only [declaration, String.append_assoc]
      exact leadsWith_append hprivate _
  | javaRecord o =>
      have htype := leadsWith_startsMember (by decide)
        (TypeTable.java_leadsWith engine column.rawType)
      apply isDecoration_eq_false
      simp only [declaration, String.append_assoc]
      exact leadsWith_append htype _
  | javaMapperXml o => cases h
  | javaMapperInterface o => cases h
  | csharpDto o =>
      apply isDecoration_eq_false
      simp only [declaration, String.append_assoc]
      exact leadsWith_append hpublic _
  | csharpRecord o =>
      rcases csharpRecord_declaration o isLast column ((csharpRecord o).memberName column.name)
        ((csharpRecord o).memberType engine column) with
        ⟨rest, hpublicly | ⟨a, htargeted⟩ | htyped⟩
      · rw [hpublicly]
        apply isDecoration_eq_false
        exact leadsWith_append hpublic rest
      · rw [htargeted]
        exact CSharp.startsWith_targeted a rest
      · have htype := leadsWith_startsMember (by decide)
          (csharp_memberType_leadsWith (c := .csharpRecord o) rfl engine column)
        rw [htyped]
        apply isDecoration_eq_false
        exact leadsWith_append htype rest
  | typescript kind o =>
      apply isDecoration_eq_false
      simp only [declaration, String.append_assoc]
      split
      · exact leadsWith_append hreadonly _
      · rw [String.empty_append]
        exact leadsWith_append hproperty _
  | typescriptZod o =>
      apply isDecoration_eq_false
      simp only [declaration, String.append_assoc]
      exact leadsWith_append hproperty _

/-! ## Imports -/

/-- Whether a line is an import. -/
def isImport (s : String) : Bool := startsWith "using " s

theorem isImport_eq_false {s : String} (h : leadsWith (· != 'u') s = true) :
    isImport s = false :=
  startsWith_eq_false (by decide) h

/-- No line of a C# member is an import. -/
theorem isImport_memberLines {c : Configured} (h : c.isCSharp = true) (engine : Engine)
    (isLast : Bool) (column : Column) :
    ∀ s ∈ c.memberLines engine isLast column, isImport s = false := by
  have hbracket : leadsWith (· != 'u') "[" = true := by decide
  have hpublic : leadsWith (· != 'u') "public " = true := by decide
  have hattributes : ∀ tags : List CSharp.AttributeTag, ∀ s ∈ tags.map (·.text),
      isImport s = false := by
    intro tags s hs
    rcases List.mem_map.mp hs with ⟨tag, -, rfl⟩
    apply isImport_eq_false
    exact leadsWith_append (leadsWith_append hbracket tag.body) "]"
  -- attributes start with a bracket, and a declaration with its access or its type
  intro s hs
  rcases List.mem_append.mp hs with hs | hs
  · cases c with
    | csharpDto o => exact hattributes _ s hs
    | csharpRecord o =>
        by_cases hform : o.positional = true
        · rw [decorations, if_pos hform] at hs
          cases hs
        · rw [decorations, if_neg hform] at hs
          exact hattributes _ s hs
    | _ => cases h
  · rw [List.mem_singleton] at hs
    rw [hs]
    apply isImport_eq_false
    cases c with
    | csharpDto o =>
        simp only [declaration, String.append_assoc]
        exact leadsWith_append hpublic _
    | csharpRecord o =>
        rcases csharpRecord_declaration o isLast column ((csharpRecord o).memberName column.name)
          ((csharpRecord o).memberType engine column) with
          ⟨rest, hpublicly | ⟨a, htargeted⟩ | htyped⟩
        · rw [hpublicly]
          exact leadsWith_append hpublic rest
        · simp only [htargeted, CSharp.AttributeTag.targeted, String.append_assoc]
          exact leadsWith_append hbracket _
        · have hword : leadsWith (· != 'u') ((csharpRecord o).memberType engine column) = true := by
            apply leadsWith_mono ?_
              (csharp_memberType_leadsWith (c := .csharpRecord o) rfl engine column)
            intro first hfirst
            rw [TypeTable.startsNoImport, Bool.and_eq_true] at hfirst
            exact hfirst.2
          rw [htyped]
          exact leadsWith_append hword rest
    | _ => cases h

/-- No line around the members of a C# declaration is an import. -/
theorem isImport_around {c : Configured} (h : c.isCSharp = true) (context : Context)
    (isEmpty : Bool) :
    ∀ s, .line s ∈ c.heading context isEmpty ++ c.ending context isEmpty → isImport s = false := by
  have hclass : isImport ("public class " ++ context.typeName) = false := by
    apply isImport_eq_false
    exact leadsWith_append (by decide) _
  have hplain : isImport ("public record " ++ context.typeName) = false := by
    apply isImport_eq_false
    exact leadsWith_append (by decide) _
  have hrecord : ∀ rest, isImport ("public record " ++ context.typeName ++ rest) = false := by
    intro rest
    apply isImport_eq_false
    exact leadsWith_append (leadsWith_append (by decide) _) rest
  intro s hs
  cases c with
  | csharpDto o =>
      simp only [heading, ending, List.cons_append, List.nil_append, List.mem_cons,
        Fragment.line.injEq, List.not_mem_nil, or_false] at hs
      rcases hs with rfl | rfl | rfl
      · exact hclass
      · decide
      · decide
  | csharpRecord o =>
      cases hform : o.positional with
      | false =>
          simp only [heading, ending, hform, if_false, Bool.false_eq_true, List.cons_append,
            List.nil_append, List.mem_cons, Fragment.line.injEq, List.not_mem_nil, or_false] at hs
          rcases hs with rfl | rfl | rfl
          · exact hplain
          · decide
          · decide
      | true =>
          cases isEmpty with
          | false =>
              simp only [heading, ending, hform, if_true, if_false, Bool.false_eq_true,
                List.cons_append, List.nil_append, List.mem_cons, Fragment.line.injEq,
                List.not_mem_nil, or_false] at hs
              rcases hs with rfl | rfl
              · exact hrecord _
              · decide
          | true =>
              simp only [heading, ending, hform, if_true, List.append_nil, List.mem_cons,
                Fragment.line.injEq, List.not_mem_nil, or_false] at hs
              rw [hs]
              exact hrecord _
  | _ => cases h

/-! ## Replacing a column -/

theorem blocks_set (c : Configured) (engine : Engine) (columns : List Column) (i : Nat)
    (other : Column) :
    c.blocks engine (columns.set i other) =
      (c.blocks engine columns).set i
        (c.block engine (i == 0) (i + 1 == columns.length) other) := by
  rw [blocks, blocks, List.length_set, List.mapIdx_set]

theorem isEmpty_set (columns : List Column) (i : Nat) (other : Column) :
    (columns.set i other).isEmpty = columns.isEmpty := by
  cases columns <;> cases i <;> rfl

/-- **A column has its own block, and nothing else of a unit depends on it.** For
every target with a member per column, the source of columns in ascending order
is an opening, their blocks in order, and a closing. Every block ends with the
line that declares the member of its column, under the column's name and mapped
type, and has nothing but decorations above it. Another column with the same
ordinal changes its own block only. In C# one import stands at the top exactly
if there are names for JSON, and there is no other. -/
theorem generate_eq_blocks (c : Configured) (h : c.isMapper = false) (context : Context)
    {columns : List Column} (hascending : Ascending columns) :
    c.generate context (columns.map .ok) =
        .ok (c.opening context columns.isEmpty ++
          String.join (c.blocks context.engine columns) ++ c.closing context columns.isEmpty) ∧
      (∀ isFirst isLast column,
        let lines := c.decorations context.engine column
        let declared := c.declaration isLast column (c.memberName column.name)
          (c.memberType context.engine column)
        c.block context.engine isFirst isLast column =
            (if c.spaced && !isFirst then "\n" else "") ++
              String.join ((lines ++ [declared]).map (c.indent.lineAt 1)) ∧
          (∀ s ∈ lines, c.isDecoration s = true) ∧ c.isDecoration declared = false) ∧
      (∀ i (hi : i < columns.length) (other : Column), other.ordinal = columns[i].ordinal →
        c.generate context ((columns.set i other).map .ok) =
          .ok (c.opening context columns.isEmpty ++
            String.join ((c.blocks context.engine columns).set i
              (c.block context.engine (i == 0) (i + 1 == columns.length) other)) ++
            c.closing context columns.isEmpty)) ∧
      (c.isCSharp = true →
        c.opening context columns.isEmpty =
            (if c.jsonNames && !columns.isEmpty then
              "using System.Text.Json.Serialization;\n\n" else "") ++
              Fragment.print c.indent (c.heading context columns.isEmpty) ∧
          (∀ s, .line s ∈ c.heading context columns.isEmpty ++ c.ending context columns.isEmpty →
            isImport s = false) ∧
          ∀ isLast column, ∀ s ∈ c.memberLines context.engine isLast column,
            isImport s = false) := by
  refine ⟨?_, ?_, ?_, ?_⟩
  · rw [c.generate_of_ascending context hascending, c.source_eq_blocks h]
  · intro isFirst isLast column
    refine ⟨rfl, ?_, ?_⟩
    · exact c.isDecoration_decorations context.engine column
    · exact c.isDecoration_declaration h context.engine isLast column
  · intro i hi other hother
    have hreplaced : Ascending (columns.set i other) := ascending_set hascending hi hother
    rw [c.generate_of_ascending context hreplaced, c.source_eq_blocks h, isEmpty_set, blocks_set]
  · intro hcsharp
    refine ⟨rfl, ?_, ?_⟩
    · exact isImport_around hcsharp context columns.isEmpty
    · exact isImport_memberLines hcsharp context.engine

/-- The second of two parameters is replaced by one of another name and type. -/
theorem replaced_parameter_keeps_others :
    let record : Configured := .csharpRecord ⟨true, false, true, false, true, false⟩
    let context : Context := .of "app_user" .postgres .none
    let columns : List Column := [.new 1 "id" "int4", (Column.new 2 "seen_at" "date").asNullable]
    record.isMapper = false ∧ Ascending columns ∧
      record.generate context (columns.map .ok) =
        .ok ("using System.Text.Json.Serialization;\n\npublic record AppUser(\n" ++
          "    [property: JsonPropertyName(\"id\")] int Id,\n" ++
          "    [property: JsonPropertyName(\"seen_at\")] DateTime? SeenAt\n);\n") ∧
      record.generate context ((columns.set 1 (.new 2 "tags" "text[]")).map .ok) =
        .ok ("using System.Text.Json.Serialization;\n\npublic record AppUser(\n" ++
          "    [property: JsonPropertyName(\"id\")] int Id,\n" ++
          "    [property: JsonPropertyName(\"tags\")] string[] Tags\n);\n") := by
  intro record context columns
  have hmember : record.isMapper = false := rfl
  have hascending : Ascending columns := by decide
  obtain ⟨hsource, -, hreplaced, -⟩ := generate_eq_blocks record hmember context hascending
  refine ⟨hmember, hascending, hsource.trans (congrArg Except.ok ?_),
    (hreplaced 1 (by decide) (.new 2 "tags" "text[]") rfl).trans (congrArg Except.ok ?_)⟩
  · decide +kernel
  · decide +kernel

end Configured

end SchemaCodegen
