import SchemaCodegen.Proofs.Emission.Surroundings
import SchemaCodegen.Proofs.Naming.Comments

/-!
# Comments in units

TypeScript declarations show the comment of a column in a line of its own, above
the property; schemas show it behind the field. Either way the comment cannot
reach out of its place: the block comment ends where its line ends, the line
comment has no break in it, and all other lines of the unit are the same for
every comment.
-/

namespace SchemaCodegen

namespace Naming

/-- What is shown of a comment: nothing if comments are not wanted or the comment is blank. -/
def shownComment (wanted : Bool) (comment : Option String) : Option String :=
  if wanted then (comment.filter fun s => !Text.isAllBlank s).map commentText else none

theorem isEmpty_trim (s : String) : (Text.trim s).isEmpty = Text.isAllBlank s := by
  rw [Bool.eq_iff_iff, String.isEmpty_iff, Text.trim, String.ofList_eq_empty_iff,
    Text.trimChars_eq_nil_iff, Text.isAllBlank, List.all_eq_true]

/-- Trimming a comment does not matter to what is shown of it. -/
theorem shownComment_eq_doc (wanted : Bool) (column : Column) :
    shownComment wanted column.comment =
      if wanted then column.doc.map commentText else none := by
  cases hcomment : column.comment with
  | none => rw [shownComment, Column.doc, hcomment]; rfl
  | some s =>
      rw [shownComment, Column.doc, hcomment, Option.map_some, Option.filter_some,
        Option.filter_some, isEmpty_trim]
      cases Text.isAllBlank s with
      | true => rfl
      | false => simp [commentText_trim]

/-- Whether a text is one block comment on one line. Its end comes once, if its last star and the
last one of its opening count as well. -/
structure IsBlockComment (shown : String) : Prop where
  delimited : ∃ inner, shown.toList = '/' :: '*' :: '*' :: inner ++ ['*', '/'] ∧
    ¬['*', '/'] <:+: '*' :: inner ++ ['*']
  oneLine : ∀ c ∈ shown.toList, endsLine c = false

/-- The text of a line comment. -/
def lineComment (text : String) : String := "// " ++ text

/-- Whether a text is one line comment, to the end of the line. -/
structure IsLineComment (shown : String) : Prop where
  delimited : ∃ inner, shown.toList = '/' :: '/' :: inner
  oneLine : ∀ c ∈ shown.toList, endsLine c = false

theorem isBlockComment_docLine (s : String) :
    IsBlockComment (Fragment.docLine (commentText s)) := by
  have hshown : (Fragment.docLine (commentText s)).toList =
      '/' :: '*' :: '*' :: (' ' :: (commentText s).toList ++ [' ']) ++ ['*', '/'] := by
    simp only [Fragment.docLine, String.toList_append]
    simp
  refine ⟨⟨_, hshown, ?_⟩, ?_⟩
  · have hfree := commentText_leaves_open s
    simpa using hfree
  · have hopening : "/** ".toList.all (!endsLine ·) = true := by decide
    have hclosing : " */".toList.all (!endsLine ·) = true := by decide
    intro c hc
    simp only [Fragment.docLine, String.toList_append] at hc
    rcases List.mem_append.mp hc with hc | hc
    · rcases List.mem_append.mp hc with hc | hc
      · simpa using List.all_eq_true.mp hopening c hc
      · exact endsLine_of_mem_commentText hc
    · simpa using List.all_eq_true.mp hclosing c hc

theorem isLineComment_lineComment (s : String) : IsLineComment (lineComment (commentText s)) := by
  have hshown : (lineComment (commentText s)).toList =
      '/' :: '/' :: ' ' :: (commentText s).toList := by
    rw [lineComment, String.toList_append]
    rfl
  refine ⟨⟨_, hshown⟩, ?_⟩
  rw [hshown]
  simp only [List.forall_mem_cons]
  refine ⟨by decide, by decide, by decide, ?_⟩
  intro c hc
  exact endsLine_of_mem_commentText hc

end Naming

namespace Configured

open Naming

variable (context : Context) (front back : List StreamItem) (column : Column)

/-- Whether a unit varies with the comment of a column in certain lines only: the stream is read
alike with every comment, and if there is a unit, the other lines are the same. -/
def VariesIn (c : Configured) (lines : Option String → List String) : Prop :=
  ∃ above below, ∀ comment : Option String,
    c.generate context (front ++ .ok { column with comment := comment } :: back) =
      (context.drain (front ++ .ok column :: back)).map fun _ =>
        unlines (above ++ lines comment ++ below)

/-- A unit varies with a comment in the lines of the member only, and in those of them only that
mention it. -/
theorem variesIn_of_indentedLines {c : Configured} (h : c.isMapper = false) (above : List String)
    {lines : Option String → List String}
    (hlines : ∀ comment, c.indentedLines context.engine back.isEmpty
      { column with comment := comment } = above ++ lines comment) :
    VariesIn context front back column c lines := by
  obtain ⟨top, bottom, haround⟩ := c.generate_around h context front back column
  refine ⟨top ++ above, bottom, fun comment => ?_⟩
  rw [haround { column with comment := comment } rfl, hlines comment, ← List.append_assoc top]

/-! ## TypeScript -/

theorem columnDocs_eq (engine : Engine) (o : TypeScriptOptions) (column : Column) :
    TypeScript.columnDocs engine o column =
      (if o.jsDocComments then
        ["@type \x7b" ++ TypeScript.columnType engine o.strictNullChecks column ++ "\x7d"]
      else []) ++ (shownComment o.comments column.comment).toList := by
  rw [TypeScript.columnDocs, shownComment_eq_doc]
  congr 1
  cases o.comments <;> cases column.doc <;> rfl

theorem variesIn_typescript (kind : TypeScript.ObjectKind) (o : TypeScriptOptions) :
    VariesIn context front back column (.typescript kind o) fun comment =>
      (((shownComment o.comments comment).map Fragment.docLine).toList ++
        [(typescript kind o).declaredLine context.engine back.isEmpty column]).map ("  " ++ ·) := by
  -- a comment with the type stands above, and does not depend on the column's own comment
  refine variesIn_of_indentedLines context front back column rfl
    ((if o.jsDocComments then
      ["@type \x7b" ++ TypeScript.columnType context.engine o.strictNullChecks column ++ "\x7d"]
    else []).map fun s => "  " ++ Fragment.docLine s) fun comment => ?_
  rw [indentedLines_eq, decorations, columnDocs_eq]
  simp only [List.map_append, List.map_map, List.append_assoc, Option.toList_map]
  rfl

/-! ## Schemas -/

theorem fieldComment_eq (o : ZodOptions) (column : Column) :
    Zod.fieldComment o column =
      ((shownComment o.comments column.comment).map fun s => " " ++ lineComment s).getD "" := by
  have hline : ∀ s, " // " ++ s = " " ++ lineComment s := by
    intro s
    rw [lineComment, ← String.append_assoc]
    rfl
  simp only [Zod.fieldComment, shownComment_eq_doc, hline]
  cases o.comments <;> cases column.doc <;> rfl

/-- The field of a schema, without a comment. -/
def fieldText (o : ZodOptions) (engine : Engine) (column : Column) : String :=
  (typescriptZod o).memberName column.name ++ ": " ++ (typescriptZod o).memberType engine column ++
    ","

theorem variesIn_typescriptZod (o : ZodOptions) :
    VariesIn context front back column (.typescriptZod o) fun comment =>
      ["  " ++ fieldText o context.engine column ++
        ((shownComment o.comments comment).map fun s => " " ++ lineComment s).getD ""] := by
  have hdepth : (typescriptZod o).indent.atDepth 1 = "  " := rfl
  refine variesIn_of_indentedLines context front back column rfl [] fun comment => ?_
  rw [indentedLines, hdepth]
  show ["  " ++ (fieldText o context.engine column ++ Zod.fieldComment o _)] = _
  rw [fieldComment_eq, String.append_assoc]
  rfl

/-- **A comment stays in its place.** In a unit of TypeScript, one that is not blank stands in a
line of its own above the property of its column, if comments are wanted, and in a schema behind
the field of its column. What else there is in the unit is the same for every comment. The line is
one block comment, what stands behind a field is one line comment, and showing a shown comment
again does not change it. -/
theorem comments_stay_in_place (context : Context) (front back : List StreamItem)
    (column : Column) :
    (∀ kind o, VariesIn context front back column (.typescript kind o) fun comment =>
      (((shownComment o.comments comment).map Fragment.docLine).toList ++
        [(typescript kind o).declaredLine context.engine back.isEmpty column]).map ("  " ++ ·)) ∧
    (∀ o, VariesIn context front back column (.typescriptZod o) fun comment =>
      ["  " ++ fieldText o context.engine column ++
        ((shownComment o.comments comment).map fun s => " " ++ lineComment s).getD ""]) ∧
    ∀ s, IsBlockComment (Fragment.docLine (commentText s)) ∧
      IsLineComment (lineComment (commentText s)) ∧
      commentText (commentText s) = commentText s ∧
      (shownComment true (some s) = none ↔ ∀ c ∈ s.toList, Text.isBlank c = true) := by
  refine ⟨variesIn_typescript context front back column,
    variesIn_typescriptZod context front back column, fun s => ⟨isBlockComment_docLine s,
      isLineComment_lineComment s, commentText_commentText s, ?_⟩⟩
  rw [← List.all_eq_true, shownComment, if_pos rfl, Option.map_eq_none_iff, Option.filter_some,
    Text.isAllBlank]
  cases s.toList.all Text.isBlank <;> simp

end Configured

end SchemaCodegen
