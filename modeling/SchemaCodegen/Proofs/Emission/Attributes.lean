import SchemaCodegen.Proofs.Emission.Surroundings
import SchemaCodegen.Proofs.Text.Literals

/-!
# Names for JSON

The attribute that names a member for JSON holds the name as its one literal,
with a target before it if it belongs to a parameter and without one otherwise.
The literal is written by replacing all backslashes of the name and after them
all quotes. A reader who takes it up to the first quote that is not escaped is
left with the end of the attribute, and comes back to the name.
-/

namespace SchemaCodegen

namespace CSharp

open Text

variable (name : String)

theorem toList_body :
    (AttributeTag.jsonPropertyName name).body.toList =
      "JsonPropertyName(".toList ++ literalChars escapeQuote name.toList ++ ")".toList := by
  show ("JsonPropertyName(" ++ literal escapeQuote name ++ ")").toList = _
  simp

theorem toList_text :
    (AttributeTag.jsonPropertyName name).text.toList =
      "[JsonPropertyName(".toList ++ literalChars escapeQuote name.toList ++ ")]".toList := by
  simp only [AttributeTag.text, String.toList_append, toList_body]
  simp

theorem toList_targeted :
    ((AttributeTag.jsonPropertyName name).targeted "property").toList =
      "[property: JsonPropertyName(".toList ++ literalChars escapeQuote name.toList ++
        ")]".toList := by
  simp only [AttributeTag.targeted, String.toList_append, toList_body]
  simp

theorem text_holdsLiteral :
    HoldsLiteral unescapeQuote "[JsonPropertyName(".toList ")]".toList
      (AttributeTag.jsonPropertyName name).text.toList name.toList := by
  rw [toList_text]
  exact holdsLiteral_literalChars unescapeQuote_undoes (by decide) name.toList

theorem targeted_holdsLiteral :
    HoldsLiteral unescapeQuote "[property: JsonPropertyName(".toList ")]".toList
      ((AttributeTag.jsonPropertyName name).targeted "property").toList name.toList := by
  rw [toList_targeted]
  exact holdsLiteral_literalChars unescapeQuote_undoes (by decide) name.toList

end CSharp

namespace Configured

open CSharp Text

/-- Whether members are the parameters of a record. -/
def isPositional : Configured → Bool
  | .csharpRecord o => o.positional
  | _ => false

/-- A member with a name for JSON has its attribute above the line that declares it, or a parameter
has it in front, on the same line. -/
theorem indentedLines_of_jsonNames {c : Configured} (h : c.jsonNames = true) (engine : Engine)
    (isLast : Bool) (column : Column) :
    c.isMapper = false ∧ ∃ rest, c.indentedLines engine isLast column =
      let tag := AttributeTag.jsonPropertyName column.name
      (if c.isPositional then [tag.targeted "property" ++ " " ++ rest]
        else [tag.text, rest]).map ("    " ++ ·) := by
  cases c with
  | csharpDto o =>
      have hattributes : columnAttributes o.jsonPropertyName column =
          [.jsonPropertyName column.name] := if_pos h
      refine ⟨rfl, (csharpDto o).declaredLine engine isLast column, ?_⟩
      rw [indentedLines_eq, decorations, hattributes]
      rfl
  | csharpRecord o =>
      have hattributes : columnAttributes o.jsonPropertyName column =
          [.jsonPropertyName column.name] := if_pos h
      refine ⟨rfl, ?_⟩
      rw [indentedLines_eq, decorations, isPositional, hattributes]
      cases hform : o.positional with
      | false => exact ⟨(csharpRecord o).declaredLine engine isLast column, rfl⟩
      | true =>
          -- the attributes of a parameter are part of its line
          have hline : (csharpRecord o).declaredLine engine isLast column =
              (AttributeTag.jsonPropertyName column.name).targeted "property" ++ " " ++
                ((csharpRecord o).memberType engine column ++ " " ++
                  (csharpRecord o).memberName column.name ++ if isLast then "" else ",") := by
            rw [declaredLine, declaration, if_pos hform, hattributes]
            simp only [List.map_singleton, String.join_cons, String.join_nil,
              String.append_empty, String.append_assoc]
          exact ⟨_, by rw [hline]; rfl⟩
  | _ => cases h

/-- **Names for JSON come back.** Both forms of the attribute hold one literal, which ends with the
first quote that is not escaped, and its value is the name. The literal comes about by replacing
the backslashes and then the quotes. So different names have different attributes. In the unit a
column's name stands in the attribute of its member. -/
theorem json_names_come_back :
    (∀ name,
      let tag := AttributeTag.jsonPropertyName name
      HoldsLiteral unescapeQuote "[JsonPropertyName(".toList ")]".toList
          tag.text.toList name.toList ∧
        HoldsLiteral unescapeQuote "[property: JsonPropertyName(".toList ")]".toList
          (tag.targeted "property").toList name.toList ∧
        tag.body.toList = "JsonPropertyName(\"".toList ++
          replaceChar '"' ['\\', '"'] (replaceChar '\\' ['\\', '\\'] name.toList) ++
            "\")".toList) ∧
    (Function.Injective fun name => (AttributeTag.jsonPropertyName name).text) ∧
    (Function.Injective fun name => (AttributeTag.jsonPropertyName name).targeted "property") ∧
    ∀ c : Configured, c.jsonNames = true → ∀ context front column back source,
      c.generate context (front ++ .ok column :: back) = .ok source →
        let tag := AttributeTag.jsonPropertyName column.name
        ∃ above rest below, source =
          unlines (above ++
            (if c.isPositional then [tag.targeted "property" ++ " " ++ rest]
              else [tag.text, rest]).map ("    " ++ ·) ++ below) := by
  refine ⟨fun name => ⟨text_holdsLiteral name, targeted_holdsLiteral name, ?_⟩,
    HoldsLiteral.injective text_holdsLiteral, HoldsLiteral.injective targeted_holdsLiteral, ?_⟩
  · rw [toList_body, literalChars, flatMap_escapeQuote_eq_replaceChar]
    simp
  · intro c hnames context front column back source hsource tag
    obtain ⟨hmember, rest, hlines⟩ :=
      indentedLines_of_jsonNames hnames context.engine back.isEmpty column
    obtain ⟨above, below, hunit⟩ := exists_eq_unlines_of_generate hmember hsource
    exact ⟨above, rest, below, by rw [hunit, hlines]⟩

/-- A quote between two letters and a backslash at the end of a name. -/
theorem quoted_name_comes_back :
    let record : Configured := .csharpRecord ⟨true, false, true, false, true, false⟩
    let column := Column.new 1 "a\"b\\" "int4"
    let source := "using System.Text.Json.Serialization;\n\npublic record T(\n" ++
      "    [property: JsonPropertyName(\"a\\\"b\\\\\")] int A\"b\\\n);\n"
    record.jsonNames = true ∧
      record.generate (.of "t" .postgres .none) [.ok column] = .ok source ∧
        ∃ above rest below, source = unlines (above ++
          ["    " ++ ("[property: JsonPropertyName(\"a\\\"b\\\\\")]" ++ " " ++ rest)] ++ below) := by
  intro record column source
  have hsource : record.generate (.of "t" .postgres .none) [.ok column] = .ok source := by
    decide +kernel
  have htargeted : (AttributeTag.jsonPropertyName "a\"b\\").targeted "property" =
      "[property: JsonPropertyName(\"a\\\"b\\\\\")]" := by
    decide +kernel
  obtain ⟨-, -, -, hunits⟩ := json_names_come_back
  have hunit := hunits record rfl (.of "t" .postgres .none) [] column [] source hsource
  have hform : record.isPositional = true := rfl
  have hname : column.name = "a\"b\\" := rfl
  simp only [hform, hname, htargeted, if_true, List.map_singleton] at hunit
  exact ⟨rfl, hsource, hunit⟩

end Configured

end SchemaCodegen
