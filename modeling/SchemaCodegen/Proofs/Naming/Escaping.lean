import SchemaCodegen.Proofs.Naming.Legality
import SchemaCodegen.Proofs.Naming.Stability

/-!
# Escaped member names

A member is the name in camel case, marked if the language would not take it as
it is: an underscore behind it, an `@` in front, or quotes around it. The marked
names lie outside of what the unmarked ones can be. No name in camel case has an
underscore, and no identifier starts with a quote; an `@` in front is the one mark
that a name may have from the start. So marking brings no clash that the names in
camel case did not have, and no member is a reserved word. In Pascal case nothing
has to be marked, since a reserved word starts with a small letter and no capital
form does.
-/

namespace SchemaCodegen.Naming

open Text

variable {s t : String}

/-! ## Marks -/

/-- A text with a mark if it needs one. -/
def marked (needsMark : String → Bool) (mark : String → String) (s : String) : String :=
  if needsMark s then mark s else s

/-- Marks bring no clash if they tell texts apart and no text without a mark looks like one that
has it. -/
theorem marked_eq_iff {needsMark : String → Bool} {mark : String → String}
    (hmark : Function.Injective mark) (hs : needsMark s = false → ∀ other, mark other ≠ s)
    (ht : needsMark t = false → ∀ other, mark other ≠ t) :
    marked needsMark mark s = marked needsMark mark t ↔ s = t := by
  refine ⟨?_, congrArg _⟩
  intro heq
  unfold marked at heq
  cases hs' : needsMark s <;> cases ht' : needsMark t <;>
    simp only [hs', ht', Bool.false_eq_true, if_true, if_false] at heq
  · exact heq
  · exact absurd heq.symm (hs hs' t)
  · exact absurd heq (ht ht' s)
  · exact hmark heq

/-- Marking the texts of a list leaves none of them if no marked text is in the list. -/
theorem marked_not_mem {words : List String} {mark : String → String}
    (h : ∀ word ∈ words, mark word ∉ words) (s : String) :
    marked words.contains mark s ∉ words := by
  unfold marked
  by_cases hs : s ∈ words
  · rw [if_pos (List.contains_iff_mem.mpr hs)]
    exact h s hs
  · rw [if_neg (fun hmem => hs (List.contains_iff_mem.mp hmem))]
    exact hs

theorem javaField_eq_marked (column : String) :
    javaField column = marked javaKeywords.contains (· ++ "_") (camel column) := rfl

theorem csharpProperty_eq_marked (column : String) :
    csharpProperty column true = marked csharpKeywords.contains ("@" ++ ·) (camel column) := rfl

theorem typescriptProperty_eq_marked (column : String) :
    typescriptProperty column =
      marked (fun name => !isIdentifier name.toList) (literal escapeQuote) (camel column) := by
  simp only [typescriptProperty, marked]
  by_cases h : isIdentifier (camel column).toList = true
  · simp [h]
  · simp [h]

/-! ## Reserved words -/

/-- The one reserved word with an underscore is the underscore itself, and reserved words of the
other language start with a small letter. -/
theorem keyword_characters :
    (∀ word ∈ javaKeywords, word ≠ "" ∧ ('_' ∈ word.toList → word = "_")) ∧
    ∀ word ∈ csharpKeywords, word.toList.head?.any Char.isLower = true := by
  decide

theorem appended_not_keyword : ∀ word ∈ javaKeywords, word ++ "_" ∉ javaKeywords := by
  intro word hword hmem
  have hunderscore : '_' ∈ (word ++ "_").toList := by simp
  have heq := (keyword_characters.1 _ hmem).2 hunderscore
  apply (keyword_characters.1 word hword).1
  rw [← String.toList_inj, String.toList_append] at heq
  simpa using heq

theorem prepended_not_keyword : ∀ word ∈ csharpKeywords, "@" ++ word ∉ csharpKeywords := by
  intro word _ hmem
  have hfirst := keyword_characters.2 _ hmem
  have hsign : ("@" ++ word).toList.head? = some '@' := by rw [String.toList_append]; rfl
  rw [hsign] at hfirst
  exact absurd hfirst (by decide)

/-- No small ASCII letter starts a name in Pascal case. -/
theorem isLower_of_head?_pascal {column : String} {c : Char}
    (h : (pascal column).toList.head? = some c) : c.isLower = false := by
  rw [pascal, String.toList_ofList] at h
  obtain ⟨rest, hform⟩ := List.head?_eq_some_iff.mp h
  obtain ⟨source, hsource, -⟩ := exists_source hform
  have hcapital := upperChar_of_head? hsource
  rw [← Bool.not_eq_true]
  intro hsmall
  have hcodes := (isLower_iff_codes c).mp hsmall
  have hascii : c.toNat < 128 := by omega
  rw [upperChar_eq_toUpper hascii, List.singleton_inj] at hcapital
  have hlarge := (asciiForms hascii).isLower_toUpper
  rw [hcapital, hsmall] at hlarge
  cases hlarge

theorem pascal_not_keyword (column : String) : pascal column ∉ csharpKeywords := by
  intro hmem
  have hfirst := keyword_characters.2 _ hmem
  obtain ⟨c, hc, hsmall⟩ := (Option.any_eq_true _ _).mp hfirst
  rw [isLower_of_head?_pascal hc] at hsmall
  cases hsmall

/-! ## Clashes -/

theorem appended_ne_camel (column other : String) : other ++ "_" ≠ camel column := by
  intro heq
  apply underscore_not_mem_camel column
  rw [← heq, String.toList_append]
  simp

theorem prepended_ne_of_head? (h : s.toList.head? ≠ some '@') (other : String) :
    "@" ++ other ≠ s := by
  rintro rfl
  exact h (by rw [String.toList_append]; rfl)

/-- A literal starts with a quote, and no identifier does. -/
theorem literal_ne_of_isIdentifier (h : isIdentifier s.toList = true) (other : String) :
    literal escapeQuote other ≠ s := by
  rintro rfl
  rw [toList_literal, literalChars, List.cons_append, isIdentifier, Bool.and_eq_true] at h
  obtain ⟨-, -, -, -, -, hquoted⟩ := identifier_signs
  exact absurd h.1 (Bool.eq_false_iff.mp hquoted)

theorem javaField_eq_iff (a b : String) : javaField a = javaField b ↔ camel a = camel b := by
  rw [javaField_eq_marked, javaField_eq_marked]
  apply marked_eq_iff
  · exact fun _ _ h => (String.append_left_inj _).mp h
  · exact fun _ => appended_ne_camel a
  · exact fun _ => appended_ne_camel b

theorem csharpProperty_eq_iff {a b : String} (ha : (camel a).toList.head? ≠ some '@')
    (hb : (camel b).toList.head? ≠ some '@') :
    csharpProperty a true = csharpProperty b true ↔ camel a = camel b := by
  rw [csharpProperty_eq_marked, csharpProperty_eq_marked]
  apply marked_eq_iff
  · exact fun _ _ h => (String.append_right_inj _).mp h
  · exact fun _ => prepended_ne_of_head? ha
  · exact fun _ => prepended_ne_of_head? hb

theorem typescriptProperty_eq_iff (a b : String) :
    typescriptProperty a = typescriptProperty b ↔ camel a = camel b := by
  have hbare : ∀ column, (!isIdentifier (camel column).toList) = false →
      ∀ other, literal escapeQuote other ≠ camel column := by
    intro column h
    rw [Bool.not_eq_false'] at h
    exact literal_ne_of_isIdentifier h
  rw [typescriptProperty_eq_marked, typescriptProperty_eq_marked]
  exact marked_eq_iff (literal_injective unescapeQuote_undoes) (hbare a) (hbare b)

/-- **Escaping is safe and adds no clash.** No member is a reserved word of its language, and two
members are the same exactly if the names are the same in camel case. Only a name with an `@` in
front from the start may look like an escaped one. -/
theorem escaping_adds_no_clash (a b : String) :
    javaField a ∉ javaKeywords ∧ (javaField a = javaField b ↔ camel a = camel b) ∧
    (∀ inCamelCase, csharpProperty a inCamelCase ∉ csharpKeywords) ∧
    ((camel a).toList.head? ≠ some '@' → (camel b).toList.head? ≠ some '@' →
      (csharpProperty a true = csharpProperty b true ↔ camel a = camel b)) ∧
    (typescriptProperty a = typescriptProperty b ↔ camel a = camel b) := by
  refine ⟨?_, javaField_eq_iff a b, ?_, csharpProperty_eq_iff, typescriptProperty_eq_iff a b⟩
  · rw [javaField_eq_marked]
    exact marked_not_mem appended_not_keyword (camel a)
  · rintro (_ | _)
    · exact pascal_not_keyword a
    · rw [csharpProperty_eq_marked]
      exact marked_not_mem prepended_not_keyword (camel a)

/-- Two columns that are the same keyword in camel case, and so the same member. -/
theorem event_columns_clash :
    (camel "EVENT").toList.head? ≠ some '@' ∧ (camel "_event").toList.head? ≠ some '@' ∧
    camel "EVENT" = camel "_event" ∧ csharpProperty "EVENT" true = csharpProperty "_event" true ∧
    csharpProperty "EVENT" true = "@event" := by
  have hcapitals : (camel "EVENT").toList.head? ≠ some '@' := by decide +kernel
  have hunderscore : (camel "_event").toList.head? ≠ some '@' := by decide +kernel
  have hsame : camel "EVENT" = camel "_event" := by decide +kernel
  obtain ⟨-, -, -, hcsharp, -⟩ := escaping_adds_no_clash "EVENT" "_event"
  exact ⟨hcapitals, hunderscore, hsame, (hcsharp hcapitals hunderscore).mpr hsame,
    by decide +kernel⟩

/-- An `@` from the start is all that the escaping of a keyword adds. -/
example : csharpProperty "@event" true = csharpProperty "event" true := by decide

end SchemaCodegen.Naming
