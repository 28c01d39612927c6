import SchemaCodegen.Proofs.Text.Segments

/-!
# Words and trimmed texts

A text whose blanks are collapsed is its words with single spaces between them. A
character or a mark that is put in front of it or behind it joins the word there,
or is a word of its own if a blank was in between. A collapsed text is trimmed, and
blanks that are put around a trimmed text come off again.
-/

namespace SchemaCodegen.Text

variable {isSeparator : Char → Bool} {cs tail : List Char}

/-! ## A word in front or behind -/

/-- A character in front of a text joins its first segment or is one of its own. -/
theorem segments_cons_of_free {c : Char} (hc : isSeparator c = false) (cs : List Char) :
    (∃ word rest, segments isSeparator cs = word :: rest ∧
      segments isSeparator (c :: cs) = (c :: word) :: rest) ∨
    segments isSeparator (c :: cs) = [c] :: segments isSeparator cs := by
  rw [segments.eq_def isSeparator (c :: cs)]
  simp only [hc, Bool.false_eq_true, if_false]
  rcases cs with _ | ⟨d, cs⟩
  · exact Or.inr rfl
  · by_cases hd : isSeparator d = true
    · exact Or.inr (by simp [hd])
    · rcases segments isSeparator (d :: cs) with _ | ⟨word, rest⟩
      · exact Or.inr (by simp)
      · exact Or.inl ⟨word, rest, rfl, by simp [hd]⟩

/-- A mark behind a text joins its last segment or is one of its own. -/
theorem segments_append_of_free (htail : tail ≠ []) (hfree : ∀ c ∈ tail, isSeparator c = false)
    (cs : List Char) :
    (∃ rest word, segments isSeparator cs = rest ++ [word] ∧
      segments isSeparator (cs ++ tail) = rest ++ [word ++ tail]) ∨
    segments isSeparator (cs ++ tail) = segments isSeparator cs ++ [tail] := by
  -- what stands behind the last separator is one word, or nothing
  obtain ⟨lead, word, rfl, hword, hlead⟩ : ∃ lead word, cs = lead ++ word ∧
      (∀ c ∈ word, isSeparator c = false) ∧
      ∀ last, last ≠ [] → (∀ c ∈ last, isSeparator c = false) →
        segments isSeparator (lead ++ last) = segments isSeparator lead ++ [last] := by
    refine ⟨cs.rdropWhile (!isSeparator ·), cs.rtakeWhile (!isSeparator ·),
      List.rdropWhile_append_rtakeWhile.symm, ?_, ?_⟩
    · intro c hc
      simpa using List.mem_rtakeWhile_imp hc
    · intro last hlast hfree'
      rcases List.eq_nil_or_concat' (cs.rdropWhile (!isSeparator ·)) with hnil | ⟨init, b, hinit⟩
      · rw [hnil, List.nil_append, segments_of_free hlast hfree']
        rfl
      · have hb : isSeparator b = true := by
          have hne : cs.rdropWhile (!isSeparator ·) ≠ [] := by simp [hinit]
          have hend := List.rdropWhile_last_not (!isSeparator ·) cs hne
          simpa [hinit] using hend
        rw [hinit, List.append_assoc, List.singleton_append, segments_append hb,
          segments_append hb, segments_of_free hlast hfree']
        simp [segments]
  by_cases hnil : word = []
  · subst hnil
    right
    simp [hlead tail htail hfree]
  · left
    refine ⟨segments isSeparator lead, word, hlead word hnil hword, ?_⟩
    rw [List.append_assoc, hlead (word ++ tail) (List.append_ne_nil_of_left_ne_nil hnil _)]
    intro c hc
    rcases List.mem_append.mp hc with hc | hc
    · exact hword c hc
    · exact hfree c hc

/-- The space that may come to stand between a text and a mark. -/
def IsGap (gap : List Char) : Prop := gap = [] ∨ gap = [' ']

theorem collapseBlanks_cons {c : Char} (hc : isBlank c = false) (cs : List Char) :
    ∃ gap, IsGap gap ∧ collapseBlanks (c :: cs) = c :: (gap ++ collapseBlanks cs) := by
  unfold collapseBlanks
  rcases segments_cons_of_free hc cs with ⟨word, rest, hcs, hjoined⟩ | halone
  · refine ⟨[], Or.inl rfl, ?_⟩
    rw [hcs, hjoined, intercalate_cons_eq_flatMap, intercalate_cons_eq_flatMap]
    rfl
  · rw [halone]
    rcases segments isBlank cs with _ | ⟨word, rest⟩
    · exact ⟨[], Or.inl rfl, by simp⟩
    · refine ⟨[' '], Or.inr rfl, ?_⟩
      rw [List.intercalate_cons_cons]
      rfl

theorem collapseBlanks_append (htail : tail ≠ []) (hfree : ∀ c ∈ tail, isBlank c = false)
    (cs : List Char) :
    ∃ gap, IsGap gap ∧ collapseBlanks (cs ++ tail) = collapseBlanks cs ++ (gap ++ tail) := by
  unfold collapseBlanks
  rcases segments_append_of_free htail hfree cs with ⟨rest, word, hcs, hjoined⟩ | halone
  · refine ⟨[], Or.inl rfl, ?_⟩
    rw [hcs, hjoined]
    rcases rest with _ | ⟨first, rest⟩
    · simp
    · simp [intercalate_cons_eq_flatMap]
  · rw [halone]
    rcases segments isBlank cs with _ | ⟨first, rest⟩
    · exact ⟨[], Or.inl rfl, by simp⟩
    · refine ⟨[' '], Or.inr rfl, ?_⟩
      simp [intercalate_cons_eq_flatMap]

/-! ## Trimmed texts -/

/-- A text without blanks at its ends. -/
structure IsTrimmed (cs : List Char) : Prop where
  first : ∀ c ∈ cs.head?, isBlank c = false
  last : ∀ c ∈ cs.getLast?, isBlank c = false

theorem IsTrimmed.rdropWhile_eq (h : IsTrimmed cs) : cs.rdropWhile isBlank = cs := by
  rw [List.rdropWhile_eq_self_iff]
  intro hne
  simp [h.last _ (List.getLast?_eq_some_getLast hne)]

/-- Blanks around a trimmed text are trimmed off. -/
theorem IsTrimmed.trimChars_around (h : IsTrimmed cs) (lead trail : List Char)
    (hlead : ∀ c ∈ lead, isBlank c = true) (htrail : ∀ c ∈ trail, isBlank c = true) :
    trimChars (lead ++ (cs ++ trail)) = cs := by
  have hcs : (cs ++ trail).rdropWhile isBlank = cs := by
    rw [List.rdropWhile, List.reverse_append,
      List.dropWhile_append_of_pos fun c hc => htrail c (List.mem_reverse.mp hc)]
    exact h.rdropWhile_eq
  rw [trimChars_eq_rdropWhile, List.dropWhile_append_of_pos hlead]
  rcases cs with _ | ⟨c, cs⟩
  · rw [List.nil_append, List.dropWhile_eq_nil_iff.mpr htrail]
    rfl
  · rw [List.cons_append, List.dropWhile_cons_of_neg (by simp [h.first c rfl])]
    exact hcs

theorem isTrimmed_collapseBlanks (cs : List Char) : IsTrimmed (collapseBlanks cs) := by
  have hwords : ∀ word ∈ segments isBlank cs, word ≠ [] ∧ ∀ c ∈ word, isBlank c = false :=
    fun word hword => ⟨ne_nil_of_mem_segments hword, free_of_mem_segments hword⟩
  unfold collapseBlanks
  generalize segments isBlank cs = words at hwords
  rcases words with _ | ⟨word, words⟩
  · exact ⟨by simp, by simp⟩
  · obtain ⟨⟨hne, hfree⟩, hrest⟩ := List.forall_mem_cons.mp hwords
    rw [intercalate_cons_eq_flatMap]
    constructor
    · rw [List.head?_append_of_ne_nil _ hne]
      exact fun c hc => hfree c (List.mem_of_mem_head? hc)
    · rcases List.eq_nil_or_concat' words with rfl | ⟨others, last, rfl⟩
      · rw [List.flatMap_nil, List.append_nil]
        exact fun c hc => hfree c (List.mem_of_getLast? hc)
      · obtain ⟨hlast, hfree'⟩ := hrest last (by simp)
        have hend : (word ++ (others ++ [last]).flatMap (' ' :: ·)).getLast? = last.getLast? := by
          rw [List.flatMap_append, List.flatMap_singleton, ← List.append_assoc,
            List.getLast?_append_of_ne_nil _ (List.cons_ne_nil _ _),
            List.getLast?_cons_of_ne_nil hlast]
        rw [hend]
        exact fun c hc => hfree' c (List.mem_of_getLast? hc)

end SchemaCodegen.Text
