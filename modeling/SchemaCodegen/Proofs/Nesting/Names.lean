import SchemaCodegen.Column.Basic
import SchemaCodegen.Proofs.Naming.Characters
import SchemaCodegen.Proofs.Naming.Comments
import SchemaCodegen.Proofs.Nesting.Basic

/-!
# Names without brackets

Every name and comment in a unit is made from a name or comment of the request:
cut into words, put into another case, escaped or quoted. None of these steps
brings in a bracket: no bracket is a form of another character in another case,
and everything else keeps characters or adds ones that the definitions spell out.
-/

namespace SchemaCodegen

/-! ## The eight brackets -/

def brackets : List Char := ['(', ')', '[', ']', '{', '}', '<', '>']

theorem mem_brackets {c : Char} (h : isBracket c = true) : c ∈ brackets := by
  rw [isBracket, Bool.or_eq_true] at h
  rcases h with hopen | hclose
  · unfold closer? at hopen
    split at hopen
    · decide
    · decide
    · decide
    · decide
    · cases hopen
  · have hmem := List.contains_iff_mem.mp hclose
    simp only [closers, List.mem_cons, List.not_mem_nil, or_false] at hmem
    rcases hmem with rfl | rfl | rfl | rfl <;> decide

theorem noBrackets_iff {cs : List Char} : NoBrackets cs ↔ ∀ d ∈ brackets, d ∉ cs := by
  have hbrackets : brackets.all isBracket = true := by decide
  constructor
  · intro h d hd hmem
    have hfree := h d hmem
    rw [List.all_eq_true.mp hbrackets d hd] at hfree
    cases hfree
  · intro h c hc
    apply Bool.eq_false_iff.mpr
    intro hbracket
    exact h c (mem_brackets hbracket) hc

theorem caseless_brackets : ∀ d ∈ brackets, Text.Caseless d := by
  have hsigns : brackets ⊆ Text.separatingSigns := by decide
  exact fun d hd => Text.caseless_of_mem (hsigns hd)

/-- No bracket is a mark that names come with. -/
theorem ne_of_mem_brackets {d : Char} (hd : d ∈ brackets) :
    d ≠ '_' ∧ d ≠ '@' ∧ d ≠ '"' ∧ d ≠ '\\' := by
  have hplain : brackets.all fun d => decide (d ≠ '_' ∧ d ≠ '@' ∧ d ≠ '"' ∧ d ≠ '\\') := by decide
  exact of_decide_eq_true (List.all_eq_true.mp hplain d hd)

namespace Text

/-! ## Words, ends and escapes -/

theorem noBrackets_segments {isSeparator : Char → Bool} {cs : List Char} (h : NoBrackets cs) :
    ∀ word ∈ segments isSeparator cs, NoBrackets word := by
  intro word hword c hc
  exact h c (mem_of_mem_segments hword hc)

theorem noBrackets_collapseBlanks {cs : List Char} (h : NoBrackets cs) :
    NoBrackets (collapseBlanks cs) :=
  NoBrackets.intercalate (by decide) (noBrackets_segments h)

theorem noBrackets_trimChars {cs : List Char} (h : NoBrackets cs) : NoBrackets (trimChars cs) := by
  intro c hc
  have hback := (List.dropWhile_sublist isBlank).subset (List.mem_reverse.mp hc)
  exact h c ((List.dropWhile_sublist isBlank).subset (List.mem_reverse.mp hback))

theorem noBrackets_escapeQuote {c : Char} (h : isBracket c = false) :
    NoBrackets (escapeQuote c) := by
  unfold escapeQuote
  split
  · decide
  · decide
  · exact noBrackets_singleton.mpr h

theorem noBrackets_escapeQuoteOrBreak {c : Char} (h : isBracket c = false) :
    NoBrackets (escapeQuoteOrBreak c) := by
  unfold escapeQuoteOrBreak
  split
  · decide
  · decide
  · decide
  · exact noBrackets_escapeQuote h

theorem bracketFree_literal {escape : Char → List Char}
    (hescape : ∀ {c : Char}, isBracket c = false → NoBrackets (escape c)) {s : String}
    (h : BracketFree s) : BracketFree (literal escape s) := by
  have hinside : NoBrackets (s.toList.flatMap escape) := by
    apply NoBrackets.flatMap
    intro c hc
    exact hescape (h c hc)
  have hquote : isBracket '"' = false := by decide
  apply bracketFree_ofList
  rw [literalChars, List.cons_append, noBrackets_cons]
  exact ⟨hquote, hinside.append (noBrackets_singleton.mpr hquote)⟩

end Text

/-! ## Names in the source -/

namespace Naming

theorem bracketFree_pascal {name : String} (h : BracketFree name) : BracketFree (pascal name) := by
  rw [BracketFree, noBrackets_iff] at h ⊢
  intro d hd
  exact not_mem_pascal (caseless_brackets d hd) (h d hd)

theorem bracketFree_camel {name : String} (h : BracketFree name) : BracketFree (camel name) := by
  rw [BracketFree, noBrackets_iff] at h ⊢
  intro d hd
  exact not_mem_camel (caseless_brackets d hd) (h d hd)

theorem bracketFree_typeName {affixes : Affixes} {table : String}
    (hbefore : BracketFree affixes.before)
    (hafter : BracketFree affixes.after) (htable : BracketFree table) :
    BracketFree (typeName affixes table) :=
  (hbefore.append (bracketFree_pascal htable)).append hafter

theorem bracketFree_javaField {column : String} (h : BracketFree column) :
    BracketFree (javaField column) := by
  rw [BracketFree, noBrackets_iff] at h ⊢
  intro d hd
  exact not_mem_javaField (caseless_brackets d hd) (ne_of_mem_brackets hd).1 (h d hd)

theorem bracketFree_csharpProperty {column : String} (h : BracketFree column) (inCamelCase : Bool) :
    BracketFree (csharpProperty column inCamelCase) := by
  rw [BracketFree, noBrackets_iff] at h ⊢
  intro d hd
  exact not_mem_csharpProperty (caseless_brackets d hd) (ne_of_mem_brackets hd).2.1 (h d hd) _

theorem bracketFree_typescriptProperty {column : String} (h : BracketFree column) :
    BracketFree (typescriptProperty column) := by
  rw [BracketFree, noBrackets_iff] at h ⊢
  intro d hd
  exact not_mem_typescriptProperty (caseless_brackets d hd) (ne_of_mem_brackets hd).2.2 (h d hd)

theorem noBrackets_breakCommentEnd {cs : List Char} (h : NoBrackets cs) :
    NoBrackets (breakCommentEnd cs) := by
  have hbackslash : isBracket '\\' = false := by decide
  intro c hc
  rcases mem_of_mem_breakCommentEnd hc with hc | rfl
  · exact h c hc
  · exact hbackslash

theorem bracketFree_commentText {comment : String} (h : BracketFree comment) :
    BracketFree (commentText comment) := by
  apply bracketFree_ofList
  apply noBrackets_breakCommentEnd
  exact Text.noBrackets_collapseBlanks h

end Naming

/-! ## Columns -/

/-- The name and the comment of a column have no brackets. Its type may have some. -/
structure Column.BracketFree (c : Column) : Prop where
  name : SchemaCodegen.BracketFree c.name
  comment : ∀ text ∈ c.comment, SchemaCodegen.BracketFree text

instance (c : Column) : Decidable c.BracketFree :=
  decidable_of_iff
    (SchemaCodegen.BracketFree c.name ∧ ∀ text ∈ c.comment, SchemaCodegen.BracketFree text)
    ⟨fun h => ⟨h.1, h.2⟩, fun h => ⟨h.name, h.comment⟩⟩

theorem Column.BracketFree.doc {c : Column} (h : c.BracketFree) {text : String}
    (hdoc : c.doc = some text) : SchemaCodegen.BracketFree text := by
  rw [Column.doc, Option.filter_eq_some_iff, Option.map_eq_some_iff] at hdoc
  rcases hdoc with ⟨⟨comment, hcomment, rfl⟩, -⟩
  apply bracketFree_ofList
  apply Text.noBrackets_trimChars
  exact h.comment comment hcomment

/-- The decimal form of a number. -/
theorem bracketFree_toString (n : Nat) : BracketFree (toString n) := by
  intro c hc
  have hdigit : c.isDigit = true :=
    Nat.isDigit_of_mem_toDigits (by decide) (by decide) (Nat.toList_repr ▸ hc)
  have hdigits : brackets.any Char.isDigit = false := by decide
  apply Bool.eq_false_iff.mpr
  intro hbracket
  rw [List.any_eq_true.mpr ⟨c, mem_brackets hbracket, hdigit⟩] at hdigits
  cases hdigits

end SchemaCodegen
