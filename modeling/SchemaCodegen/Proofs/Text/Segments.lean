import Mathlib.Data.List.Basic
import Mathlib.Data.List.DropRight
import SchemaCodegen.Text.Blank

/-!
# Segments of a text

The segments of a text are the pieces between its separators, less the empty
ones. So a separator cuts them in two: the segments of a text with a separator
in it are those before it and those behind it. The other facts about them are
read off the pieces as well.

For blanks the segments are the words. Trimming a text keeps its words, and
words that are joined by spaces are the words of the result.
-/

namespace SchemaCodegen.Text

variable {isSeparator : Char → Bool}

/-- The longest runs of characters that are not separators are the pieces that a cut at every
separator leaves, less the empty ones. -/
theorem segments_eq_splitOnP (cs : List Char) :
    segments isSeparator cs = (cs.splitOnP isSeparator).filter (!·.isEmpty) := by
  induction cs with
  | nil => rfl
  | cons first cs ih =>
      rw [List.splitOnP_cons_eq_if_modifyHead, segments.eq_def]
      by_cases hfirst : isSeparator first = true
      · simp only [if_pos hfirst, ih]
        rfl
      · simp only [if_neg hfirst]
        cases cs with
        | nil => rfl
        | cons second cs =>
            rw [List.splitOnP_cons_eq_if_modifyHead] at ih ⊢
            -- the first character joins the next segment unless a separator comes second
            by_cases hsecond : isSeparator second = true
            · simp only [hsecond, if_true] at ih ⊢
              rw [ih]
              rfl
            · simp only [Bool.not_eq_true] at hsecond
              obtain ⟨piece, pieces, hpieces⟩ :=
                List.exists_cons_of_ne_nil (List.splitOnP_ne_nil isSeparator cs)
              simp only [hsecond, hpieces] at ih ⊢
              rw [ih]
              rfl

theorem segments_append {separator : Char} (h : isSeparator separator = true)
    (cs ds : List Char) :
    segments isSeparator (cs ++ separator :: ds) =
      segments isSeparator cs ++ segments isSeparator ds := by
  rw [segments_eq_splitOnP, segments_eq_splitOnP, segments_eq_splitOnP,
    List.splitOnP_append_cons _ _ h, List.filter_append]

theorem segments_cons_of_separator {separator : Char} (h : isSeparator separator = true)
    (cs : List Char) : segments isSeparator (separator :: cs) = segments isSeparator cs :=
  segments_append h [] cs

theorem segments_of_free {cs : List Char} (hcs : cs ≠ [])
    (h : ∀ c ∈ cs, isSeparator c = false) : segments isSeparator cs = [cs] := by
  rw [segments_eq_splitOnP, List.splitOnP_eq_singleton h]
  exact List.filter_eq_self.mpr (by simp [hcs])

theorem ne_nil_of_mem_segments {cs word : List Char} (h : word ∈ segments isSeparator cs) :
    word ≠ [] := by
  rw [segments_eq_splitOnP, List.mem_filter] at h
  simpa using h.2

/-- No separator is in a piece. -/
theorem free_of_mem_splitOnP {cs piece : List Char} (h : piece ∈ cs.splitOnP isSeparator) :
    ∀ c ∈ piece, isSeparator c = false := by
  induction cs generalizing piece with
  | nil =>
      rw [List.splitOnP_nil, List.mem_singleton] at h
      simp [h]
  | cons first cs ih =>
      rw [List.splitOnP_cons_eq_if_modifyHead] at h
      split at h
      · rcases List.mem_cons.mp h with rfl | hrest
        · simp
        · exact ih hrest
      · rename_i hfirst
        obtain ⟨opening, pieces, hpieces⟩ :=
          List.exists_cons_of_ne_nil (List.splitOnP_ne_nil isSeparator cs)
        rw [hpieces] at ih h
        rcases List.mem_cons.mp h with rfl | hrest
        · intro c hc
          rcases List.mem_cons.mp hc with rfl | hc
          · simpa using hfirst
          · exact ih List.mem_cons_self c hc
        · exact ih (List.mem_cons_of_mem _ hrest)

theorem free_of_mem_segments {cs word : List Char} (h : word ∈ segments isSeparator cs) :
    ∀ c ∈ word, isSeparator c = false := by
  rw [segments_eq_splitOnP, List.mem_filter] at h
  exact free_of_mem_splitOnP h.1

theorem segments_eq_nil_iff {cs : List Char} :
    segments isSeparator cs = [] ↔ ∀ c ∈ cs, isSeparator c = true := by
  induction cs with
  | nil => simp [segments]
  | cons first cs ih =>
      by_cases hfirst : isSeparator first = true
      · rw [segments_cons_of_separator hfirst, List.forall_mem_cons]
        simpa [hfirst] using ih
      · obtain ⟨opening, pieces, hpieces⟩ :=
          List.exists_cons_of_ne_nil (List.splitOnP_ne_nil isSeparator cs)
        rw [segments_eq_splitOnP, List.splitOnP_cons_eq_if_modifyHead, if_neg hfirst, hpieces]
        simp [hfirst]

/-- A map of characters that tells separators from the others as before maps the segments. -/
theorem segments_map {f : Char → Char} {cs : List Char}
    (h : ∀ c ∈ cs, isSeparator (f c) = isSeparator c) :
    segments isSeparator (cs.map f) = (segments isSeparator cs).map (List.map f) := by
  have hpieces : (cs.map f).splitOnP isSeparator = (cs.splitOnP isSeparator).map (List.map f) := by
    induction cs with
    | nil => rfl
    | cons first cs ih =>
        obtain ⟨hfirst, hcs⟩ := List.forall_mem_cons.mp h
        simp only [List.map_cons, List.splitOnP_cons_eq_if_modifyHead, hfirst, ih hcs]
        split
        · rfl
        · cases cs.splitOnP isSeparator <;> rfl
  rw [segments_eq_splitOnP, segments_eq_splitOnP, hpieces, List.filter_map]
  congr 2
  funext piece
  simp

/-! ## Separators at the ends -/

theorem segments_append_of_separators_left {lead : List Char}
    (h : ∀ c ∈ lead, isSeparator c = true) (cs : List Char) :
    segments isSeparator (lead ++ cs) = segments isSeparator cs := by
  induction lead with
  | nil => rfl
  | cons first lead ih =>
      obtain ⟨hfirst, hlead⟩ := List.forall_mem_cons.mp h
      rw [List.cons_append, segments_cons_of_separator hfirst, ih hlead]

theorem segments_append_of_separators_right {trail : List Char}
    (h : ∀ c ∈ trail, isSeparator c = true) (cs : List Char) :
    segments isSeparator (cs ++ trail) = segments isSeparator cs := by
  cases trail with
  | nil => simp
  | cons first trail =>
      obtain ⟨hfirst, htrail⟩ := List.forall_mem_cons.mp h
      rw [segments_append hfirst, segments_eq_nil_iff.mpr htrail, List.append_nil]

/-- A run of separators cuts as one of them does. -/
theorem segments_append_separators {gap : List Char} (hne : gap ≠ [])
    (h : ∀ c ∈ gap, isSeparator c = true) (cs ds : List Char) :
    segments isSeparator (cs ++ (gap ++ ds)) =
      segments isSeparator cs ++ segments isSeparator ds := by
  obtain ⟨first, rest, rfl⟩ := List.exists_cons_of_ne_nil hne
  obtain ⟨hfirst, hrest⟩ := List.forall_mem_cons.mp h
  rw [List.cons_append, segments_append hfirst, segments_append_of_separators_left hrest]

/-! ## Words -/

theorem trimChars_eq_rdropWhile (cs : List Char) :
    trimChars cs = (cs.dropWhile isBlank).rdropWhile isBlank := rfl

theorem segments_trimChars (cs : List Char) :
    segments isBlank (trimChars cs) = segments isBlank cs := by
  have hlead : ∀ c ∈ cs.takeWhile isBlank, isBlank c = true :=
    fun c hc => List.mem_takeWhile_imp hc
  have htrail : ∀ c ∈ (cs.dropWhile isBlank).rtakeWhile isBlank, isBlank c = true :=
    fun c hc => List.mem_rtakeWhile_imp hc
  calc segments isBlank (trimChars cs)
      = segments isBlank (trimChars cs ++ (cs.dropWhile isBlank).rtakeWhile isBlank) :=
        (segments_append_of_separators_right htrail _).symm
    _ = segments isBlank (cs.dropWhile isBlank) := by
        simp [trimChars_eq_rdropWhile]
    _ = segments isBlank (cs.takeWhile isBlank ++ cs.dropWhile isBlank) :=
        (segments_append_of_separators_left hlead _).symm
    _ = segments isBlank cs := by rw [List.takeWhile_append_dropWhile]

theorem trimChars_eq_nil_iff {cs : List Char} :
    trimChars cs = [] ↔ ∀ c ∈ cs, isBlank c = true := by
  rw [trimChars_eq_rdropWhile, List.rdropWhile_eq_nil_iff]
  refine ⟨fun h => ?_, fun h c hc => h c (List.dropWhile_suffix isBlank |>.subset hc)⟩
  rw [← List.takeWhile_append_dropWhile (p := isBlank) (l := cs)]
  intro c hc
  rcases List.mem_append.mp hc with hc | hc
  · exact List.mem_takeWhile_imp hc
  · exact h c hc

theorem intercalate_cons_eq_flatMap (separator : Char) (word : List Char)
    (words : List (List Char)) :
    [separator].intercalate (word :: words) = word ++ words.flatMap (separator :: ·) := by
  induction words generalizing word with
  | nil => simp
  | cons next words ih =>
      rw [List.intercalate_cons_cons, ih, List.flatMap_cons, List.append_assoc]
      rfl

/-- Joining words by a separator is undone by cutting the text at separators. -/
theorem segments_intercalate {separator : Char} (h : isSeparator separator = true)
    {words : List (List Char)}
    (hwords : ∀ word ∈ words, word ≠ [] ∧ ∀ c ∈ word, isSeparator c = false) :
    segments isSeparator ([separator].intercalate words) = words := by
  induction words with
  | nil => rfl
  | cons first rest ih =>
      obtain ⟨⟨hne, hfree⟩, hrest⟩ := List.forall_mem_cons.mp hwords
      cases rest with
      | nil => simp [segments_of_free hne hfree]
      | cons second rest =>
          simp only [List.intercalate_cons_cons, List.append_assoc, List.singleton_append,
            segments_append h, segments_of_free hne hfree, ih hrest]

end SchemaCodegen.Text
