import SchemaCodegen.Proofs.Naming.Conversion
import SchemaCodegen.Proofs.Text.CaseTables

/-!
# Pascal case applied again

A name in Pascal case is one part. If it mixes cases, it is kept when it is put into
Pascal case again. If it does not, everything behind its first character is put into
lower case, and the first character comes back as it was. So a form is stable exactly
if it mixes cases or has nothing behind the first character that lower case changes.
The form of `a_b` does neither. The second form of a name is always stable.
-/

namespace SchemaCodegen.Naming

open Text

variable {cs ds part rest : List Char} {u x : Char}

/-! ## Mixed cases -/

theorem mixesCases_of_subset (hsub : cs ⊆ ds) (h : mixesCases cs = true) :
    mixesCases ds = true := by
  obtain ⟨⟨c, hc, hcapital⟩, ⟨d, hd, hsmall⟩⟩ := mixesCases_iff.mp h
  exact mixesCases_iff.mpr ⟨⟨c, hsub hc, hcapital⟩, ⟨d, hsub hd, hsmall⟩⟩

/-- If a text mixes cases and no longer does with a capital in front, it starts with a small
letter. -/
theorem lowerChar_of_mixesCases_lost (h : mixesCases (x :: rest) = true)
    (hlost : ¬ mixesCases (upperChar x ++ (rest ++ ds)) = true) : lowerChar x = [x] := by
  obtain ⟨⟨c, hc, hcapital⟩, ⟨d, hd, hsmall⟩⟩ := mixesCases_iff.mp h
  have hrest : rest ⊆ upperChar x ++ (rest ++ ds) := fun e he =>
    List.mem_append_right _ (List.mem_append_left _ he)
  rcases List.mem_cons.mp hc with rfl | hc
  · -- a capital stays in front, and so nothing is lost
    rw [upperChar_of_uppercase hcapital] at hlost hrest
    exact absurd (mixesCases_of_subset (List.cons_subset_cons _ (List.subset_append_left _ _)) h)
      hlost
  · rcases List.mem_cons.mp hd with rfl | hd
    · exact lowerChar_of_lowercase hsmall
    · exact absurd (mixesCases_iff.mpr ⟨⟨c, hrest hc, hcapital⟩, ⟨d, hrest hd, hsmall⟩⟩) hlost

/-! ## The first character of a form -/

theorem normalizePart_ne_nil (h : part ≠ []) : normalizePart part ≠ [] := by
  obtain ⟨c, rest, rfl⟩ := List.exists_cons_of_ne_nil h
  rw [normalizePart]
  split
  · exact h
  · rw [lowerChars_nil_cons]
    exact List.append_ne_nil_of_left_ne_nil (lowerChar_ne_nil c) _

/-- A form starts with the capital of a character, which is in lower case unless the form mixes
cases. -/
theorem exists_source (h : pascalChars cs = u :: rest) :
    ∃ x, (upperChar x).head? = some u ∧
      (¬ mixesCases (u :: rest) = true → lowerChar x = [x]) := by
  cases hparts : parts cs with
  | nil =>
      rw [pascalChars, hparts] at h
      cases h
  | cons first others =>
      have hfirst : first ∈ parts cs := hparts ▸ List.mem_cons_self
      obtain ⟨x, tail, hnormal⟩ :=
        List.exists_cons_of_ne_nil (normalizePart_ne_nil (ne_nil_of_mem_segments hfirst))
      have hform : upperChar x ++ (tail ++ others.flatMap capitalPart) = u :: rest := by
        rw [← h, pascalChars, hparts, List.flatMap_cons, capitalPart, hnormal, upperFirst,
          List.append_assoc]
      refine ⟨x, ?_, ?_⟩
      · obtain ⟨v, form, hupper⟩ := List.exists_cons_of_ne_nil (upperChar_ne_nil x)
        rw [hupper, List.cons_append, List.cons.injEq] at hform
        rw [hupper, List.head?_cons, hform.1]
      · intro hplain
        -- the first part is in lower case, or has lost the small letter in front
        by_cases hmixes : mixesCases first = true
        · rw [normalizePart, if_pos hmixes] at hnormal
          rw [hnormal] at hmixes
          rw [← hform] at hplain
          exact lowerChar_of_mixesCases_lost hmixes hplain
        · rw [normalizePart, if_neg hmixes] at hnormal
          have hmem : x ∈ lowerChars [] first := hnormal ▸ List.mem_cons_self
          exact lowerChar_of_mem_lowerChars hmem

/-! ## The second form -/

/-- A form in Pascal case that does not mix cases goes into lower case behind its first
character, and that is all. -/
theorem pascalChars_of_form (h : pascalChars cs = u :: rest) :
    pascalChars (u :: rest) =
      if mixesCases (u :: rest) then u :: rest else u :: lowerChars [u] rest := by
  obtain ⟨x, hhead, hsource⟩ := exists_source h
  have hfree : '_' ∉ u :: rest := h ▸ not_mem_pascalChars cs
  rw [pascalChars, parts_of_free (List.cons_ne_nil _ _) hfree, List.flatMap_singleton, capitalPart,
    normalizePart]
  split
  · rw [upperFirst, upperChar_of_head? hhead, List.singleton_append]
  · -- the first character is put into lower case and back, alone
    rename_i hplain
    rw [lowerChars_nil_cons, upperFirst_append (lowerChar_ne_nil u),
      upperFirst_lowerChar_of_head? (hsource hplain) hhead, List.singleton_append]

/-- Whether a text mixes cases or has nothing behind its first character that lower case
changes. -/
def IsSettled (cs : List Char) : Prop :=
  mixesCases cs = true ∨ ∀ c ∈ cs.tail, lowerChar c = [c]

theorem pascalChars_eq_self_iff : pascalChars (pascalChars cs) = pascalChars cs ↔
    IsSettled (pascalChars cs) := by
  cases hform : pascalChars cs with
  | nil => exact iff_of_true rfl (.inr (by simp))
  | cons u rest =>
      rw [pascalChars_of_form hform, IsSettled, List.tail_cons]
      by_cases hmixes : mixesCases (u :: rest) = true
      · rw [if_pos hmixes]
        exact iff_of_true rfl (.inl hmixes)
      · rw [if_neg hmixes, List.cons_inj_right, or_iff_right hmixes]
        constructor
        · intro hsame c hc
          rw [← hsame] at hc
          exact lowerChar_of_mem_lowerChars hc
        · intro hsettled
          exact lowerChars_eq_self hsettled [u]

theorem isSettled_second (cs : List Char) : IsSettled (pascalChars (pascalChars cs)) := by
  cases hform : pascalChars cs with
  | nil => exact .inr (by simp [pascalChars, parts, segments])
  | cons u rest =>
      rw [pascalChars_of_form hform]
      by_cases hmixes : mixesCases (u :: rest) = true
      · rw [if_pos hmixes]
        exact .inl hmixes
      · rw [if_neg hmixes]
        exact .inr fun c hc => lowerChar_of_mem_lowerChars hc

/-! ## Stability -/

/-- **Pascal case is stable exactly if the form of a name mixes cases or has nothing behind its
first character that lower case changes.** The same goes for the names of types. The second form
is stable in any case. -/
theorem pascal_stable_iff (name : String) :
    (pascal (pascal name) = pascal name ↔ IsSettled (pascal name).toList) ∧
    (∀ affixes : Affixes,
      typeName affixes (pascal name) = typeName affixes name ↔ IsSettled (pascal name).toList) ∧
    pascal (pascal (pascal name)) = pascal (pascal name) := by
  have hform : ∀ s : String, (pascal s).toList = pascalChars s.toList := by
    intro s
    simp [pascal]
  have hagain : ∀ s : String, pascal (pascal s) = pascal s ↔ IsSettled (pascal s).toList := by
    intro s
    rw [← String.toList_inj, hform, hform, pascalChars_eq_self_iff]
  refine ⟨hagain name, ?_, ?_⟩
  · intro affixes
    rw [typeName, typeName, String.append_left_inj, String.append_right_inj]
    exact hagain name
  · rw [hagain, hform, hform]
    exact isSettled_second name.toList

/-- Words of one letter give capitals, which a second pass takes for one word. -/
theorem capitals_alone_not_stable :
    pascal "a_b" = "AB" ∧ pascal "AB" = "Ab" ∧ ¬ (∀ name, pascal (pascal name) = pascal name) ∧
    typeName ⟨"Api", "Dto"⟩ (pascal "a_b") ≠ typeName ⟨"Api", "Dto"⟩ "a_b" := by
  have hfirst : pascal "a_b" = "AB" := by decide +kernel
  have hsecond : pascal "AB" = "Ab" := by decide +kernel
  refine ⟨hfirst, hsecond, ?_, ?_⟩
  · intro hstable
    have hsame := hstable "a_b"
    rw [hfirst, hsecond] at hsame
    exact absurd hsame (by decide)
  · rw [typeName, typeName, hfirst, hsecond]
    decide

end SchemaCodegen.Naming
