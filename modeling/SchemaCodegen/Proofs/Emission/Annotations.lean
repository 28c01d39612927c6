import SchemaCodegen.Proofs.Emission.Surroundings
import SchemaCodegen.Proofs.Text.Literals

/-!
# What annotations say

Two annotations of Java members have a text for an argument: the comment of the
column, and its name in JSON. A reader of the source finds one literal in each,
and the value of the literal is the text. There is no line break in an
annotation, whatever the text, so each has one line of the unit, above the
member.
-/

namespace SchemaCodegen

namespace Java

open Text

theorem stringLiteral_denotes (v : String) :
    Denotes unescapeQuoteOrBreak (stringLiteral v).toList v.toList :=
  denotes_literal unescapeQuoteOrBreak_undoes v

theorem isBreak_stringLiteral (v : String) : ∀ c ∈ (stringLiteral v).toList, isBreak c = false := by
  rw [stringLiteral, toList_literal]
  exact isBreak_literalChars v.toList

theorem stringLiteral_injective : Function.Injective stringLiteral :=
  literal_injective unescapeQuoteOrBreak_undoes

/-! ## Annotations -/

/-- An annotation with one argument, which is a text. -/
def annotated (lead argument : String) : String := lead ++ stringLiteral argument ++ ")"

@[simp] theorem toList_annotated (lead argument : String) :
    (annotated lead argument).toList =
      lead.toList ++ literalChars escapeQuoteOrBreak argument.toList ++ [')'] := by
  simp only [annotated, stringLiteral, String.toList_append, toList_literal]
  rfl

/-- What the annotations of a column say: what stands before the literal, and its value. -/
def columnArguments (swagger jackson : Bool) (column : Column) : List (String × String) :=
  ((if swagger then column.doc.toList else []).map fun doc => ("@Schema(description = ", doc)) ++
    if jackson then [("@JsonProperty(", Naming.camel column.name)] else []

theorem columnAnnotations_text (swagger jackson : Bool) (column : Column) :
    (columnAnnotations swagger jackson column).map (·.text) =
      (columnArguments swagger jackson column).map fun said => annotated said.1 said.2 := by
  simp only [columnAnnotations, columnArguments, List.map_append]
  congr 1
  · cases swagger <;> cases column.doc <;> rfl
  · cases jackson <;> rfl

/-- No annotation has a break or a quote before its literal. -/
theorem columnArguments_lead {swagger jackson : Bool} {column : Column} {said : String × String}
    (h : said ∈ columnArguments swagger jackson column) :
    (said.1.toList ++ [')']).all (fun c => !isBreak c && c != '"') = true := by
  have hleads : ∀ lead ∈ ["@Schema(description = ", "@JsonProperty("],
      (lead.toList ++ [')']).all (fun c => !isBreak c && c != '"') = true := by
    decide
  apply hleads
  rcases List.mem_append.mp h with h | h
  · obtain ⟨doc, -, rfl⟩ := List.mem_map.mp h
    exact List.mem_cons_self
  · cases jackson with
    | false => cases h
    | true =>
        rw [List.mem_singleton.mp h]
        exact List.mem_cons_of_mem _ List.mem_cons_self

variable {lead : String} (h : (lead.toList ++ [')']).all (fun c => !isBreak c && c != '"') = true)

include h

theorem isBreak_annotated (argument : String) :
    ∀ c ∈ (annotated lead argument).toList, isBreak c = false := by
  have haround : ∀ c ∈ lead.toList ++ [')'], isBreak c = false := by
    intro c hc
    have hplain := List.all_eq_true.mp h c hc
    rw [Bool.and_eq_true, Bool.not_eq_true'] at hplain
    exact hplain.1
  intro c hc
  rw [toList_annotated] at hc
  rcases List.mem_append.mp hc with hc | hc
  · rcases List.mem_append.mp hc with hc | hc
    · exact haround c (List.mem_append_left _ hc)
    · exact isBreak_literalChars argument.toList c hc
  · exact haround c (List.mem_append_right _ hc)

theorem annotated_holdsLiteral (argument : String) :
    HoldsLiteral unescapeQuoteOrBreak lead.toList [')'] (annotated lead argument).toList
      argument.toList := by
  rw [toList_annotated]
  apply holdsLiteral_literalChars unescapeQuoteOrBreak_undoes
  intro hquote
  have hplain := List.all_eq_true.mp h '"' hquote
  simp at hplain

end Java

namespace Configured

open Java Text

/-- Whether members have annotations for their comments, and whether they have some for their names
in JSON, in a target that has such annotations. -/
def annotationFlags : Configured → Option (Bool × Bool)
  | .javaDto o => some (o.swaggerAnnotations, o.jacksonAnnotations)
  | .javaRecord o => some (o.swaggerAnnotations, o.jacksonAnnotations)
  | _ => none

theorem indentedLines_of_annotationFlags {c : Configured} {swagger jackson : Bool}
    (h : c.annotationFlags = some (swagger, jackson)) (engine : Engine) (isLast : Bool)
    (column : Column) :
    c.isMapper = false ∧ c.indentedLines engine isLast column =
      ((columnAnnotations swagger jackson column).map (·.text) ++
        [c.declaredLine engine isLast column]).map ("    " ++ ·) := by
  cases c with
  | javaDto o =>
      cases h
      exact ⟨rfl, indentedLines_eq (.javaDto o) engine isLast column⟩
  | javaRecord o =>
      cases h
      exact ⟨rfl, indentedLines_eq (.javaRecord o) engine isLast column⟩
  | _ => cases h

/-- **Annotations say what the column says.** A string literal denotes its text from the first
quote to the last, has no line feed, carriage return or tab in it, and no other text has the same
literal. The annotations of a column hold one literal each, for its trimmed comment and for its
name in camel case, and have no breaks either. In the unit they stand on lines of their own, above
the member. -/
theorem annotations_denote :
    (∀ v, Denotes unescapeQuoteOrBreak (stringLiteral v).toList v.toList ∧
      ∀ c ∈ (stringLiteral v).toList, isBreak c = false) ∧
    Function.Injective stringLiteral ∧
    (∀ engine swagger jackson column,
      let shown := (columnField engine swagger jackson column).annotations.map (·.text)
      (∀ s ∈ shown, ∀ c ∈ s.toList, isBreak c = false) ∧
        List.Forall₂
          (fun s said =>
            HoldsLiteral unescapeQuoteOrBreak said.1.toList [')'] s.toList said.2.toList)
          shown (columnArguments swagger jackson column)) ∧
    ∀ (c : Configured) (swagger jackson : Bool),
      c.annotationFlags = some (swagger, jackson) →
        ∀ context front column back source,
          c.generate context (front ++ .ok column :: back) = .ok source →
            ∃ above below, source =
              unlines (above ++
                ((columnAnnotations swagger jackson column).map (·.text) ++
                  [c.declaredLine context.engine back.isEmpty column]).map ("    " ++ ·) ++
                    below) := by
  refine ⟨fun v => ⟨stringLiteral_denotes v, isBreak_stringLiteral v⟩, stringLiteral_injective,
    ?_, ?_⟩
  · intro engine swagger jackson column shown
    have hshown : shown =
        (columnArguments swagger jackson column).map fun said => annotated said.1 said.2 :=
      columnAnnotations_text swagger jackson column
    -- each annotation is one literal behind a fixed text
    rw [hshown, List.forall_mem_map]
    refine ⟨fun said hsaid => isBreak_annotated (columnArguments_lead hsaid) said.2, ?_⟩
    rw [List.forall₂_map_left_iff, List.forall₂_same]
    intro said hsaid
    exact annotated_holdsLiteral (columnArguments_lead hsaid) said.2
  · intro c swagger jackson hflags context front column back source hsource
    obtain ⟨hmember, hlines⟩ :=
      indentedLines_of_annotationFlags hflags context.engine back.isEmpty column
    obtain ⟨above, below, hunit⟩ := exists_eq_unlines_of_generate hmember hsource
    exact ⟨above, below, by rw [hunit, hlines]⟩

/-- Quotes, a line feed and a backslash before a letter in a comment. -/
theorem quoted_comment_annotated :
    let record : Configured := .javaRecord ⟨false, true, true, false⟩
    let column := (Column.new 1 "api_key" "text").withComment " say \"hi\"\nC:\\new\t"
    let source := "public record T(\n    @Schema(description = \"say \\\"hi\\\"\\nC:\\\\new\")\n" ++
      "    @JsonProperty(\"apiKey\")\n    String apiKey\n) \x7b\x7d\n"
    record.annotationFlags = some (true, true) ∧
      record.generate (.of "t" .postgres .none) [.ok column] = .ok source ∧
        ∃ above below, source =
          unlines (above ++ ["    @Schema(description = \"say \\\"hi\\\"\\nC:\\\\new\")",
            "    @JsonProperty(\"apiKey\")", "    String apiKey"] ++ below) := by
  intro record column source
  have hsource : record.generate (.of "t" .postgres .none) [.ok column] = .ok source := by
    decide +kernel
  have hlines : ((columnAnnotations true true column).map (·.text) ++
      [record.declaredLine .postgres true column]).map ("    " ++ ·) =
        ["    @Schema(description = \"say \\\"hi\\\"\\nC:\\\\new\")",
          "    @JsonProperty(\"apiKey\")", "    String apiKey"] := by
    decide +kernel
  obtain ⟨-, -, -, hunits⟩ := annotations_denote
  obtain ⟨above, below, hunit⟩ :=
    hunits record true true rfl (.of "t" .postgres .none) [] column [] source hsource
  exact ⟨rfl, hsource, above, below, hlines ▸ hunit⟩

end Configured

end SchemaCodegen
