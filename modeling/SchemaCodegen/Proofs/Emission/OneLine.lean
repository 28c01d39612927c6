import SchemaCodegen.Proofs.Emission.Annotations
import SchemaCodegen.Proofs.Emission.Comments
import SchemaCodegen.Proofs.Naming.Characters
import SchemaCodegen.Proofs.TypeMap.Marks

/-!
# Members on lines of their own

A member is handed over as lines, and the printer does not look for breaks in them.
There are none if the name of the column has none. Types come from the tables, the
texts of Java annotations escape what would break their line, comments are shown with
single spaces, and the numbers of a schema are digits. All that is left is the name,
which attributes and properties may quote but do not break.
-/

namespace SchemaCodegen

open Text

theorem caseless_break : Caseless '\n' := caseless_of_mem (by decide)

theorem oneLine_literal {s : String} (h : OneLine s) : OneLine (literal escapeQuote s) := by
  rw [OneLine, mem_literal_iff (by decide)]
  exact h

theorem oneLine_of_endsLine {s : String} (h : ∀ c ∈ s.toList, Naming.endsLine c = false) :
    OneLine s := by
  intro hmem
  exact absurd (h '\n' hmem) (by decide)

/-! ## Types -/

namespace TypeTable

/-- No entry of a table has a break. -/
theorem oneLine_entries (engine : Engine) :
    ∀ t ∈ [java, csharp, typescript, zod], ∀ entry ∈ t.entries engine, OneLine entry.2 := by
  cases engine <;> decide +kernel

theorem oneLine_arrayOf {element : String} (h : OneLine element) :
    ∀ t ∈ [java, csharp, typescript, zod], OneLine (t.arrayOf element) := by
  have hbracketed : OneLine (bracketed element) := h.append (by decide)
  simp only [List.forall_mem_cons, List.not_mem_nil, false_implies, implies_true, and_true]
  refine ⟨hbracketed, hbracketed, ?_, ?_⟩
  · show OneLine (if element.toList.contains '|' then "(" ++ element ++ ")[]" else _)
    split
    · exact (OneLine.append (by decide) h).append (by decide)
    · exact hbracketed
  · exact (OneLine.append (s := "array(z.") (by decide) h).append (by decide)

theorem oneLine_mapType {t : TypeTable} (ht : t ∈ [java, csharp, typescript, zod])
    (engine : Engine) (raw : String) : OneLine (t.mapType engine raw) := by
  have hunknown : ∀ t ∈ [java, csharp, typescript, zod], OneLine t.unknown := by decide
  refine mapType_induction (hunknown t ht) ?_ ?_ engine raw
  · intro engine
    exact oneLine_entries engine t ht
  · intro element h
    exact oneLine_arrayOf h t ht

end TypeTable

/-! ## Fields of a schema -/

theorem TypeScript.CallChain.oneLine_call {chain : CallChain} (h : OneLine chain.text)
    {method : String} (hmethod : OneLine method) {arguments : List String}
    (harguments : OneLine (", ".intercalate arguments)) :
    OneLine (chain.call method arguments).text := by
  have hdot : OneLine "." := by decide
  have hopen : OneLine "(" := by decide
  have hclose : OneLine ")" := by decide
  exact ((((h.append hdot).append hmethod).append hopen).append harguments).append hclose

theorem oneLine_toString (n : Nat) : OneLine (toString n) := by
  intro hmem
  have hdigit := Nat.isDigit_of_mem_toDigits (by decide) (by decide) (Nat.toList_repr ▸ hmem)
  exact absurd hdigit (by decide)

namespace Zod

open TypeScript.CallChain

theorem oneLine_fieldChain (engine : Engine) (o : ZodOptions) (column : Column) :
    OneLine (fieldChain engine o column).text := by
  have hmethods : ∀ method ∈ plainMethods, OneLine method := by decide
  refine fieldChain_induction (P := fun chain => OneLine chain.text) ?_ ?_ ?_ o
  · exact OneLine.append (s := "z.") (by decide) (TypeTable.oneLine_mapType (by simp) engine _)
  · intro chain h method hmethod
    exact oneLine_call h (hmethods method hmethod) (by decide)
  · intro chain h n
    have hone : ", ".intercalate [toString n] = toString n := rfl
    exact oneLine_call h (by decide) (hone ▸ oneLine_toString n)

theorem oneLine_fieldComment (o : ZodOptions) (column : Column) :
    OneLine (fieldComment o column) := by
  rw [Configured.fieldComment_eq, Naming.shownComment]
  split
  · cases column.comment.filter fun s => !isAllBlank s with
    | none => decide
    | some s =>
        exact OneLine.append (s := " ") (by decide)
          (oneLine_of_endsLine (Naming.isLineComment_lineComment s).oneLine)
  · decide

end Zod

/-! ## Above members -/

theorem Java.oneLine_columnAnnotations (swagger jackson : Bool) (column : Column) :
    ∀ a ∈ columnAnnotations swagger jackson column, OneLine a.text := by
  rw [← List.forall_mem_map, columnAnnotations_text, List.forall_mem_map]
  intro said hsaid hmem
  have hplain := isBreak_annotated (columnArguments_lead hsaid) said.2 '\n' hmem
  exact absurd hplain (by decide)

namespace CSharp

variable {column : Column} (h : OneLine column.name) (jsonNames : Bool)
include h

theorem oneLine_body : ∀ a ∈ columnAttributes jsonNames column, OneLine a.body := by
  intro a ha
  cases jsonNames with
  | false => cases ha
  | true =>
      rw [List.mem_singleton.mp ha]
      exact (OneLine.append (s := "JsonPropertyName(") (by decide) (oneLine_literal h)).append
        (by decide)

theorem oneLine_text : ∀ a ∈ columnAttributes jsonNames column, OneLine a.text := by
  intro a ha
  exact (OneLine.append (s := "[") (by decide) (oneLine_body h jsonNames a ha)).append (by decide)

theorem oneLine_targeted :
    OneLine (String.join ((columnAttributes jsonNames column).map fun a =>
      a.targeted "property" ++ " ")) := by
  cases jsonNames with
  | false => exact List.not_mem_nil
  | true =>
      have hbody := oneLine_body h true _ List.mem_cons_self
      have htargeted := (OneLine.append (s := "[property: ") (by decide) hbody).append
        (t := "]") (by decide)
      show OneLine (String.join [_ ++ " "])
      rw [String.join_cons, String.join_nil, String.append_empty]
      exact htargeted.append (by decide)

end CSharp

theorem TypeScript.oneLine_columnType (engine : Engine) (strict : Bool) (column : Column) :
    OneLine (columnType engine strict column) := by
  refine OneLine.append (TypeTable.oneLine_mapType (by simp) engine column.rawType) ?_
  split
  · decide
  · decide

theorem TypeScript.oneLine_columnDocs (engine : Engine) (o : TypeScriptOptions) (column : Column) :
    ∀ doc ∈ columnDocs engine o column, OneLine (Fragment.docLine doc) := by
  have hopening : OneLine "/** " := by decide
  have hclosing : OneLine " */" := by decide
  intro doc hdoc
  rw [Configured.columnDocs_eq] at hdoc
  rcases List.mem_append.mp hdoc with htype | hcomment
  · rw [List.mem_ite_nil_right, List.mem_singleton] at htype
    have hdoc : OneLine ("@type \x7b" ++ columnType engine o.strictNullChecks column ++ "\x7d") :=
      (OneLine.append (by decide) (oneLine_columnType engine _ column)).append (by decide)
    rw [htype.2]
    exact (hopening.append hdoc).append hclosing
  · rw [Option.mem_toList, Naming.shownComment, Option.ite_none_right_eq_some] at hcomment
    obtain ⟨s, -, rfl⟩ := Option.map_eq_some_iff.mp hcomment.2
    exact oneLine_of_endsLine (Naming.isBlockComment_docLine s).oneLine

/-! ## Members -/

namespace Configured

theorem oneLine_memberType (c : Configured) (engine : Engine) (column : Column) :
    OneLine (c.memberType engine column) := by
  have htype : ∀ t ∈ [TypeTable.java, .csharp, .typescript, .zod],
      OneLine (t.mapType engine column.rawType) := fun t ht =>
    TypeTable.oneLine_mapType ht engine column.rawType
  cases c with
  | javaDto o | javaRecord o | javaMapperXml o | javaMapperInterface o =>
      exact htype .java (by simp)
  | csharpDto o | csharpRecord o =>
      have hplain : OneLine (TypeTable.csharp.mapType engine column.rawType) :=
        htype .csharp (by simp)
      show OneLine (if _ then CSharpType.markNullable _ else _)
      split
      · exact CSharpType.markNullable_mapType engine column.rawType ▸ hplain.append (by decide)
      · exact hplain
  | typescript kind o => exact TypeScript.oneLine_columnType engine _ column
  | typescriptZod o =>
      rw [← Zod.fieldChain_text]
      exact Zod.oneLine_fieldChain engine o column

variable {column : Column} (h : OneLine column.name)
include h

theorem oneLine_memberName (c : Configured) : OneLine (c.memberName column.name) := by
  cases c with
  | csharpDto o | csharpRecord o =>
      exact Naming.not_mem_csharpProperty caseless_break (by decide) h _
  | typescript kind o | typescriptZod o =>
      exact Naming.not_mem_typescriptProperty caseless_break (by decide) h
  | javaDto o | javaRecord o | javaMapperXml o | javaMapperInterface o =>
      exact Naming.not_mem_javaField caseless_break (by decide) h

theorem oneLine_decorations (c : Configured) (engine : Engine) :
    ∀ line ∈ c.decorations engine column, OneLine line := by
  cases c with
  | javaDto o | javaRecord o =>
      exact List.forall_mem_map.mpr (Java.oneLine_columnAnnotations _ _ column)
  | csharpDto o => exact List.forall_mem_map.mpr (CSharp.oneLine_text h _)
  | csharpRecord o =>
      show ∀ line ∈ if o.positional then [] else _, OneLine line
      split
      · exact List.forall_mem_nil _
      · exact List.forall_mem_map.mpr (CSharp.oneLine_text h _)
  | typescript kind o =>
      exact List.forall_mem_map.mpr (TypeScript.oneLine_columnDocs engine o column)
  | typescriptZod o | javaMapperXml o | javaMapperInterface o => exact List.forall_mem_nil _

theorem oneLine_declaration (c : Configured) (isLast : Bool) {name type : String}
    (hname : OneLine name) (htype : OneLine type) :
    OneLine (c.declaration isLast column name type) := by
  have hspace : OneLine " " := by decide
  have hpublic : OneLine ("public " ++ type ++ " " ++ name) :=
    ((OneLine.append (by decide) htype).append hspace).append hname
  -- fixed texts have no break in them, and a declaration adds the type and the name only
  cases c with
  | javaDto o =>
      exact (((OneLine.append (s := "private ") (by decide) htype).append hspace).append
        hname).append (by decide)
  | javaRecord o =>
      refine ((htype.append hspace).append hname).append ?_
      cases isLast <;> decide
  | csharpDto o =>
      refine hpublic.append ?_
      cases o.getter <;> cases o.setter <;> decide
  | csharpRecord o =>
      show OneLine (if o.positional then _ else _)
      split
      · have htyped := (((CSharp.oneLine_targeted h o.jsonPropertyName).append htype).append
          hspace).append hname
        refine htyped.append ?_
        cases isLast <;> decide
      · refine hpublic.append ?_
        cases o.withInit <;> decide
  | typescript kind o =>
      have hoptional : ∀ optional : Bool, OneLine (if optional then "?" else "") := by decide
      have hreadonly : OneLine (if o.readonlyProperties then "readonly " else "") := by
        cases o.readonlyProperties <;> decide
      exact ((((hreadonly.append hname).append (hoptional _)).append (t := ": ")
        (by decide)).append htype).append (by decide)
  | typescriptZod o =>
      exact (((hname.append (t := ": ") (by decide)).append htype).append (t := ",")
        (by decide)).append (Zod.oneLine_fieldComment o column)
  | javaMapperXml o | javaMapperInterface o => exact List.not_mem_nil

/-- **Every line of a member is a line of the source**, if the name of the column is on one line.
Its raw type and its comment may have breaks in them. -/
theorem oneLine_memberLines (c : Configured) (engine : Engine) (isLast : Bool) :
    ∀ line ∈ c.memberLines engine isLast column, OneLine line := by
  intro line hline
  rcases List.mem_append.mp hline with hline | hline
  · exact oneLine_decorations h c engine line hline
  · rw [List.mem_singleton.mp hline]
    exact oneLine_declaration h c isLast (oneLine_memberName h c)
      (oneLine_memberType c engine column)

end Configured

end SchemaCodegen
