import SchemaCodegen.Proofs.Text.CaseTables
import SchemaCodegen.Proofs.Text.Folding
import SchemaCodegen.Proofs.Text.Words

/-!
# Lower case and what stands around it

Lower case looks past a character only at a capital sigma, and no further than to
the next character that is not ignorable. So what does not start with a cased
letter may stand around a text, and the text is put into lower case as if it stood
alone. A space does, so that words are put into lower case one by one. Blank
characters are no forms of others, so that a text stays trimmed. ASCII capitals may
be folded before, and nothing changes.
-/

namespace SchemaCodegen.Text

variable {c d : Char} {cs ds before outer : List Char}

/-! ## Tables -/

def asciiLetters : RunSet := [⟨0x0041, 0x005A, 1⟩, ⟨0x0061, 0x007A, 1⟩]

/-- A space has no case, and a letter of ASCII is not ignored. No form in lower case is blank. -/
theorem casing_tables :
    caseIgnorable.contains ' ' = false ∧ cased.contains ' ' = false ∧
    asciiLetters.Apart caseIgnorable ∧ lowerForms.Apart blanks := by
  decide +kernel

/-! ## Surroundings -/

theorem startsCased_append (h : startsCased ds = false) (cs : List Char) :
    startsCased (cs ++ ds) = startsCased cs := by
  unfold startsCased at h ⊢
  rw [List.dropWhile_append]
  by_cases hall : (cs.dropWhile caseIgnorable.contains).isEmpty = true
  · rw [if_pos hall, List.isEmpty_iff.mp hall]
    exact h
  · obtain ⟨c, rest, hrest⟩ :=
      List.exists_cons_of_ne_nil (fun hnil => hall (List.isEmpty_iff.mpr hnil))
    rw [if_neg hall, hrest]
    rfl

/-- What does not start with a cased letter does not show in front of a text. -/
theorem lowerChars_append_before (h : startsCased outer = false) (before cs : List Char) :
    lowerChars (before ++ outer) cs = lowerChars before cs := by
  induction cs generalizing before with
  | nil => rfl
  | cons c cs ih =>
      rw [lowerChars, lowerChars, startsCased_append h, ← List.cons_append, ih]

/-- And neither does it behind a text. -/
theorem lowerChars_append (h : startsCased ds = false) (before cs : List Char) :
    lowerChars before (cs ++ ds) =
      lowerChars before cs ++ lowerChars (cs.reverse ++ before) ds := by
  induction cs generalizing before with
  | nil => rfl
  | cons c cs ih =>
      simp only [List.cons_append, lowerChars, startsCased_append h, ih, List.reverse_cons,
        List.append_assoc]
      rfl

@[simp] theorem startsCased_space (cs : List Char) : startsCased (' ' :: cs) = false := by
  obtain ⟨hignorable, hcased, -, -⟩ := casing_tables
  rw [startsCased, List.dropWhile_cons_of_neg (by simp [hignorable])]
  exact hcased

/-- Words with a space between them are put into lower case one by one. -/
theorem lowerChars_intercalate (words : List (List Char)) :
    lowerChars [] ([' '].intercalate words) = [' '].intercalate (words.map (lowerChars [])) := by
  have hspace : lowerChar ' ' = [' '] := by decide
  induction words with
  | nil => rfl
  | cons word words ih =>
      cases words with
      | nil => simp
      | cons next words =>
          have hbefore := lowerChars_append_before (startsCased_space word.reverse) []
            ([' '].intercalate (next :: words))
          rw [List.nil_append] at hbefore
          rw [List.map_cons, List.map_cons, List.intercalate_cons_cons, List.intercalate_cons_cons,
            ← List.map_cons, ← ih, List.append_assoc, List.append_assoc, List.singleton_append,
            lowerChars_append (startsCased_space _), List.append_nil, lowerChars,
            if_neg (by decide), hspace, hbefore]

/-! ## Blanks -/

theorem isBlank_of_mem_lowerChar (hd : d ∈ lowerChar c) (hc : isBlank c = false) :
    isBlank d = false := by
  rcases eq_or_lowerForms_of_mem hd with ⟨-, rfl⟩ | hform
  · exact hc
  · exact casing_tables.2.2.2.contains_eq_false hform

/-- A text in lower case consists of forms of its characters, none of which is empty, or blank for
a character that is not. -/
theorem exists_form (c : Char) (before cs : List Char) :
    ∃ form, form ≠ [] ∧ (isBlank c = false → ∀ d ∈ form, isBlank d = false) ∧
      lowerChars before (c :: cs) = form ++ lowerChars (c :: before) cs := by
  rw [lowerChars]
  by_cases hsigma : c = 'Σ'
  · rw [if_pos hsigma]
    refine ⟨_, List.cons_ne_nil _ _, ?_, rfl⟩
    intro _ d hd
    rw [List.mem_singleton] at hd
    subst hd
    split
    · decide
    · decide
  · rw [if_neg hsigma]
    exact ⟨lowerChar c, lowerChar_ne_nil c, fun hc d hd => isBlank_of_mem_lowerChar hd hc, rfl⟩

theorem isBlank_of_mem_lowerChars (hcs : ∀ c ∈ cs, isBlank c = false)
    (hd : d ∈ lowerChars before cs) : isBlank d = false := by
  induction cs generalizing before with
  | nil => cases hd
  | cons c cs ih =>
      obtain ⟨hc, hrest⟩ := List.forall_mem_cons.mp hcs
      obtain ⟨form, -, hform, heq⟩ := exists_form c before cs
      rw [heq, List.mem_append] at hd
      rcases hd with hd | hd
      · exact hform hc d hd
      · exact ih hrest hd

theorem lowerChars_ne_nil (h : cs ≠ []) (before : List Char) : lowerChars before cs ≠ [] := by
  obtain ⟨c, rest, rfl⟩ := List.exists_cons_of_ne_nil h
  obtain ⟨form, hform, -, heq⟩ := exists_form c before rest
  rw [heq]
  exact List.append_ne_nil_of_left_ne_nil hform _

/-- A text in lower case is a word of ASCII characters exactly if the text is that word up to the
case of ASCII letters. -/
theorem AsciiWord.lowerChars_eq_iff {word : List Char} (hword : AsciiWord word)
    (before cs : List Char) : lowerChars before cs = word ↔ cs.map lowerAscii = word := by
  induction word generalizing before cs with
  | nil =>
      rw [List.map_eq_nil_iff]
      constructor
      · intro hnil
        by_contra hne
        exact lowerChars_ne_nil hne before hnil
      · rintro rfl
        rfl
  | cons d word ih =>
      have hd := hword.sourced d List.mem_cons_self
      cases cs with
      | nil => simp [lowerChars]
      | cons c cs =>
          rw [List.map_cons]
          by_cases hc : c.toNat < 128
          · simp [lowerChars_cons_of_ascii hc, ih hword.tail]
          · refine iff_of_false ?_ ?_
            · intro heq
              exact not_prefix_lowerChars hword hc before cs (heq ▸ List.prefix_refl _)
            · rw [lowerAscii_of_not_ascii hc, List.cons.injEq]
              exact fun h => hd.ne_of_not_ascii hc h.1.symm

/-- A trimmed text stays trimmed in lower case. -/
theorem IsTrimmed.lowerChars (h : IsTrimmed cs) (before : List Char) :
    IsTrimmed (lowerChars before cs) where
  first := by
    rcases cs with _ | ⟨c, cs⟩
    · exact h.first
    · obtain ⟨form, hform, hblank, heq⟩ := exists_form c before cs
      rw [heq, List.head?_append_of_ne_nil _ hform]
      intro d hd
      exact hblank (h.first c rfl) d (List.mem_of_mem_head? hd)
  last := by
    have hlast := h.last
    clear h
    induction cs generalizing before with
    | nil => simp [Text.lowerChars]
    | cons c cs ih =>
        obtain ⟨form, -, hblank, heq⟩ := exists_form c before cs
        rw [heq]
        by_cases hcs : cs = []
        · subst hcs
          intro d hd
          rw [Text.lowerChars, List.append_nil] at hd
          exact hblank (hlast c rfl) d (List.mem_of_getLast? hd)
        · rw [List.getLast?_append_of_ne_nil _ (lowerChars_ne_nil hcs _)]
          apply ih
          rwa [List.getLast?_cons_of_ne_nil hcs] at hlast

/-! ## ASCII capitals -/

/-- Folding takes letters to letters, and nothing else changes. -/
theorem lowerAscii_eq_self_or (c : Char) :
    lowerAscii c = c ∨
      c.toNat < 128 ∧ asciiLetters.contains c = true ∧
        asciiLetters.contains (lowerAscii c) = true := by
  have hcodes : ∀ n < 128, lowerAscii (Char.ofNat n) = Char.ofNat n ∨
      asciiLetters.contains (Char.ofNat n) = true ∧
        asciiLetters.contains (lowerAscii (Char.ofNat n)) = true := by
    decide
  by_cases hc : c.toNat < 128
  · have hcode := hcodes c.toNat hc
    rw [Char.ofNat_toNat] at hcode
    exact hcode.imp_right fun hletters => ⟨hc, hletters⟩
  · exact Or.inl (lowerAscii_of_not_ascii hc)

/-- A class that has no ASCII letter does not see the folding. -/
theorem contains_lowerAscii {s : RunSet} (h : asciiLetters.Apart s) (c : Char) :
    s.contains (lowerAscii c) = s.contains c := by
  rcases lowerAscii_eq_self_or c with hself | ⟨-, hc, hfolded⟩
  · rw [hself]
  · rw [h.contains_eq_false hc, h.contains_eq_false hfolded]

theorem isBlank_lowerAscii (c : Char) : isBlank (lowerAscii c) = isBlank c :=
  contains_lowerAscii (by decide) c

theorem cased_lowerAscii (c : Char) : cased.contains (lowerAscii c) = cased.contains c := by
  have hletters : ∀ c, asciiLetters.contains c = true → cased.contains c = true := by
    intro c hc
    have hsplit : cased = asciiLetters ++ cased.drop 2 := rfl
    rw [RunSet.contains] at hc ⊢
    rw [hsplit, List.any_append, hc, Bool.true_or]
  rcases lowerAscii_eq_self_or c with hself | ⟨-, hc, hfolded⟩
  · rw [hself]
  · rw [hletters c hc, hletters _ hfolded]

theorem startsCased_map_lowerAscii (cs : List Char) :
    startsCased (cs.map lowerAscii) = startsCased cs := by
  have hignorable : caseIgnorable.contains ∘ lowerAscii = caseIgnorable.contains :=
    funext (contains_lowerAscii casing_tables.2.2.1)
  unfold startsCased
  rw [List.dropWhile_map, hignorable]
  cases cs.dropWhile caseIgnorable.contains with
  | nil => rfl
  | cons c rest => exact cased_lowerAscii c

/-- A character that is no ASCII letter stands for itself alone. -/
theorem lowerAscii_eq_iff {d : Char} (hd : asciiLetters.contains d = false) (c : Char) :
    lowerAscii c = d ↔ c = d := by
  rcases lowerAscii_eq_self_or c with hself | ⟨-, hc, hfolded⟩
  · rw [hself]
  · apply iff_of_false
    · rintro rfl
      rw [hd] at hfolded
      cases hfolded
    · rintro rfl
      rw [hd] at hc
      cases hc

theorem lowerChar_lowerAscii (c : Char) : lowerChar (lowerAscii c) = lowerChar c := by
  have hcodes : ∀ n < 128, (lowerAscii (Char.ofNat n)).toNat < 128 ∧
      lowerAscii (lowerAscii (Char.ofNat n)) = lowerAscii (Char.ofNat n) := by
    decide
  rcases lowerAscii_eq_self_or c with hself | ⟨hc, -⟩
  · rw [hself]
  · have hcode := hcodes c.toNat hc
    rw [Char.ofNat_toNat] at hcode
    rw [lowerChar_of_ascii hc, lowerChar_of_ascii hcode.1, hcode.2]

/-- A text in lower case is the same for every case that its ASCII letters had. -/
theorem lowerChars_map_lowerAscii (before cs : List Char) :
    lowerChars (before.map lowerAscii) (cs.map lowerAscii) = lowerChars before cs := by
  induction cs generalizing before with
  | nil => rfl
  | cons c cs ih =>
      have hrest := ih (c :: before)
      rw [List.map_cons] at hrest ⊢
      simp only [lowerChars, lowerAscii_eq_iff (d := 'Σ') (by decide), lowerChar_lowerAscii,
        startsCased_map_lowerAscii, hrest]

end SchemaCodegen.Text
