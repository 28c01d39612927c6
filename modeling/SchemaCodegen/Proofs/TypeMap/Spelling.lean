import Mathlib.Logic.Relation
import SchemaCodegen.Proofs.Layout.Separators
import SchemaCodegen.Proofs.Text.Ascii
import SchemaCodegen.Proofs.TypeMap.Arrays

/-!
# Spellings of a type name

A normalised name is known by its words: those of the text outside parentheses, each
in lower case. Every way in which engines spell a name differently leaves the words
as they are. An argument in parentheses goes as a whole, wherever it stands; blanks
between words are one separator however many they are, and none at the ends; the
case of letters goes with the words. The words of a normalised name are the words it
was made from, so that there is nothing left to normalise.
-/

namespace SchemaCodegen

open Text

namespace TypeName

/-! ## Words -/

def words (raw : String) : List (List Char) :=
  (segments isBlank (outsideParens 0 raw.toList)).map (lowerChars [])

theorem normalize_eq_words (raw : String) :
    (normalize raw).toList = [' '].intercalate (words raw) := by
  rw [normalize_toList, collapseBlanks, lowerChars_intercalate]
  rfl

theorem free_of_mem_words {raw : String} {word : List Char} (h : word ∈ words raw) :
    word ≠ [] ∧ ∀ c ∈ word, isBlank c = false := by
  obtain ⟨segment, hsegment, rfl⟩ := List.mem_map.mp h
  refine ⟨lowerChars_ne_nil (ne_nil_of_mem_segments hsegment) [], ?_⟩
  intro c hc
  exact isBlank_of_mem_lowerChars (free_of_mem_segments hsegment) hc

/-! ## Normal names -/

/-- What every normalised name is like. -/
structure IsNormal (name : String) : Prop where
  unparenthesised : '(' ∉ name.toList ∧ ')' ∉ name.toList
  trimmed : IsTrimmed name.toList
  /-- No blank follows another. -/
  spaced : name.toList.IsChain fun a b => isBlank a = false ∨ isBlank b = false
  small : ∀ c ∈ name.toList, c.isUpper = false

theorem parens_not_mem_normalize (raw : String) :
    '(' ∉ (normalize raw).toList ∧ ')' ∉ (normalize raw).toList := by
  have hsigns : ['(', ')'] ⊆ separatingSigns := by decide
  have hkept : ∀ d ∈ ['(', ')'], d ∉ outsideParens 0 raw.toList → d ∉ (normalize raw).toList := by
    intro d hd hfree
    rw [normalize_toList]
    apply (caseless_of_mem (hsigns hd)).not_mem_lowerChars
    intro hmem
    rcases mem_of_mem_intercalate hmem with hspace | ⟨word, hword, hin⟩
    · rw [List.mem_singleton.mp hspace] at hd
      exact absurd hd (by decide)
    · exact hfree (mem_of_mem_segments hword hin)
  obtain ⟨hopen, hclose⟩ := parens_not_mem_outsideParens 0 raw.toList
  exact ⟨hkept '(' (by simp) hopen, hkept ')' (by simp) hclose⟩

/-- Words with single spaces between them have no two blanks in a row. -/
theorem isChain_intercalate {words : List (List Char)}
    (hwords : ∀ word ∈ words, word ≠ [] ∧ ∀ c ∈ word, isBlank c = false) :
    ([' '].intercalate words).IsChain fun a b => isBlank a = false ∨ isBlank b = false := by
  have hword : ∀ word : List Char, (∀ c ∈ word, isBlank c = false) →
      word.IsChain fun a b => isBlank a = false ∨ isBlank b = false := by
    intro word hfree
    exact (List.pairwise_of_forall_mem_list fun a ha _ _ => Or.inl (hfree a ha)).isChain
  induction words with
  | nil => exact List.IsChain.nil
  | cons word words ih =>
      obtain ⟨⟨-, hfree⟩, hrest⟩ := List.forall_mem_cons.mp hwords
      cases words with
      | nil =>
          rw [List.intercalate_singleton]
          exact hword word hfree
      | cons next words =>
          obtain ⟨hne, hfree'⟩ := hrest next List.mem_cons_self
          rw [List.intercalate_cons_cons, List.append_assoc, List.singleton_append,
            List.isChain_append, List.isChain_cons]
          refine ⟨hword word hfree, ⟨?_, ih hrest⟩, ?_⟩
          · intro c hc
            rw [intercalate_cons_eq_flatMap, List.head?_append_of_ne_nil _ hne] at hc
            exact Or.inr (hfree' c (List.mem_of_mem_head? hc))
          · intro c hc _ _
            exact Or.inl (hfree c (List.mem_of_getLast? hc))

theorem isNormal_normalize (raw : String) : IsNormal (normalize raw) where
  unparenthesised := parens_not_mem_normalize raw
  trimmed := isTrimmed_normalize raw
  spaced := by
    rw [normalize_eq_words]
    exact isChain_intercalate fun word hword => free_of_mem_words hword
  small := by
    intro c hc
    rw [normalize_toList] at hc
    have hself := lowerChar_of_mem_lowerChars hc
    by_cases hascii : c.toNat < 128
    · rw [lowerChar_eq_toLower hascii, List.singleton_inj] at hself
      rw [← hself]
      exact (asciiForms hascii).isUpper_toLower
    · rw [Bool.eq_false_iff, ne_eq, isUpper_iff_codes]
      omega

/-- There is nothing left to normalise in a normalised name. -/
theorem words_normalize (raw : String) : words (normalize raw) = words raw := by
  obtain ⟨hopen, hclose⟩ := parens_not_mem_normalize raw
  have hself : ∀ word ∈ words raw, lowerChars [] word = word := by
    intro word hword
    obtain ⟨segment, -, rfl⟩ := List.mem_map.mp hword
    exact lowerChars_eq_self (fun c hc => lowerChar_of_mem_lowerChars hc) []
  rw [words, (outsideParens_of_free hopen hclose 0).1, if_pos rfl, normalize_eq_words,
    segments_intercalate (by decide) fun word hword => free_of_mem_words hword]
  exact (List.map_congr_left hself).trans (List.map_id _)

/-! ## Other spellings -/

/-- One change to the spelling of a name. -/
inductive Respells : String → String → Prop
  /-- An argument is put in, at any place. -/
  | argument {inner : String} (h : Balanced inner.toList) (lead trail : String) :
      Respells (lead ++ trail) (lead ++ "(" ++ inner ++ ")" ++ trail)
  /-- ASCII letters change their case. -/
  | letterCase {raw other : String} (h : equalAsciiFolded raw other = true) : Respells raw other
  /-- Blanks take the place of other blanks. -/
  | blanks {gap other : String} (hgap : gap ≠ "" ∧ isAllBlank gap = true)
      (hother : other ≠ "" ∧ isAllBlank other = true) (lead trail : String) :
      Respells (lead ++ gap ++ trail) (lead ++ other ++ trail)
  /-- Blanks are put in front of the name or behind it. -/
  | before {gap : String} (h : isAllBlank gap = true) (raw : String) : Respells raw (gap ++ raw)
  | behind {gap : String} (h : isAllBlank gap = true) (raw : String) : Respells raw (raw ++ gap)

/-- Blanks are kept as a whole or not at all. -/
theorem outsideParens_blanks {gap : List Char} (h : ∀ c ∈ gap, isBlank c = true) (depth : Nat) :
    outsideParens depth gap = (if depth = 0 then gap else []) ∧ depthAfter depth gap = depth := by
  have hblank : isBlank '(' = false ∧ isBlank ')' = false := by decide
  apply outsideParens_of_free
  · intro hmem
    rw [h _ hmem] at hblank
    exact absurd hblank.1 (by decide)
  · intro hmem
    rw [h _ hmem] at hblank
    exact absurd hblank.2 (by decide)

theorem words_argument {inner : String} (h : Balanced inner.toList) (lead trail : String) :
    words (lead ++ "(" ++ inner ++ ")" ++ trail) = words (lead ++ trail) := by
  have hchars : (lead ++ "(" ++ inner ++ ")" ++ trail).toList =
      lead.toList ++ '(' :: (inner.toList ++ ')' :: trail.toList) := by
    simp
  simp only [words, hchars, String.toList_append, outsideParens_append, h.outsideParens_group]

theorem words_letterCase {raw other : String} (h : equalAsciiFolded raw other = true) :
    words raw = words other := by
  have hfolded : ∀ s : String, words s =
      (segments isBlank (outsideParens 0 (s.toList.map lowerAscii))).map (lowerChars []) := by
    intro s
    have hlower : lowerChars [] ∘ List.map lowerAscii = lowerChars [] :=
      funext (lowerChars_map_lowerAscii [])
    rw [outsideParens_map (lowerAscii_eq_iff (by decide)) (lowerAscii_eq_iff (by decide)),
      segments_map fun c _ => isBlank_lowerAscii c, List.map_map, hlower]
    rfl
  rw [hfolded, hfolded, beq_iff_eq.mp h]

/-- Blanks in a text come to the same whatever they are. -/
theorem words_blanks {gap other : String} (hgap : gap ≠ "" ∧ isAllBlank gap = true)
    (hother : other ≠ "" ∧ isAllBlank other = true) (lead trail : String) :
    words (lead ++ gap ++ trail) = words (lead ++ other ++ trail) := by
  have hwords : ∀ s : String, s ≠ "" ∧ isAllBlank s = true → words (lead ++ s ++ trail) =
      (if depthAfter 0 lead.toList = 0 then
        segments isBlank (outsideParens 0 lead.toList) ++
          segments isBlank (outsideParens 0 trail.toList)
      else
        segments isBlank (outsideParens 0 lead.toList ++
          outsideParens (depthAfter 0 lead.toList) trail.toList)).map (lowerChars []) := by
    intro s hs
    have hne : s.toList ≠ [] := fun hnil => hs.1 (String.toList_inj.mp hnil)
    obtain ⟨hkept, hdepth⟩ :=
      outsideParens_blanks (List.all_eq_true.mp hs.2) (depthAfter 0 lead.toList)
    simp only [words, String.toList_append, List.append_assoc, outsideParens_append, hkept, hdepth]
    by_cases hopen : depthAfter 0 lead.toList = 0
    · rw [if_pos hopen, if_pos hopen, hopen,
        segments_append_separators hne (List.all_eq_true.mp hs.2)]
    · rw [if_neg hopen, if_neg hopen, List.nil_append]
  rw [hwords gap hgap, hwords other hother]

theorem words_before {gap : String} (h : isAllBlank gap = true) (raw : String) :
    words (gap ++ raw) = words raw := by
  obtain ⟨hkept, hdepth⟩ := outsideParens_blanks (List.all_eq_true.mp h) 0
  simp [words, hkept, hdepth, segments_append_of_separators_left (List.all_eq_true.mp h)]

theorem words_behind {gap : String} (h : isAllBlank gap = true) (raw : String) :
    words (raw ++ gap) = words raw := by
  have hblank : ∀ depth, ∀ c ∈ outsideParens depth gap.toList, isBlank c = true := by
    intro depth c hc
    exact List.all_eq_true.mp h c ((outsideParens_sublist depth gap.toList).subset hc)
  simp [words, segments_append_of_separators_right (hblank _)]

/-- **No change of spelling changes the words.** -/
theorem Respells.words_eq {raw other : String} (h : Respells raw other) :
    words other = words raw := by
  cases h with
  | argument h lead trail => exact words_argument h lead trail
  | letterCase h => exact (words_letterCase h).symm
  | blanks hgap hother lead trail => exact words_blanks hother hgap lead trail
  | before h => exact words_before h _
  | behind h => exact words_behind h _

theorem normalize_eq_of_words_eq {raw other : String} (h : words other = words raw) :
    normalize other = normalize raw := by
  rw [← String.toList_inj, normalize_eq_words, normalize_eq_words, h]

end TypeName

namespace TypeTable

theorem mapType_congr (t : TypeTable) {raw other : String}
    (h : TypeName.normalize other = TypeName.normalize raw) (engine : Engine) :
    t.mapType engine other = t.mapType engine raw := by
  rw [mapType, mapType, h]

/-- **Normalising a name keeps its words and nothing else.** A normalised name is normalised
already, and has no parentheses, no blanks that a single space would not do for and no ASCII
capitals. Any number of changes of spelling, made or taken back, lead to the same normalised name,
and so to the same type in every table and for every engine. -/
theorem spelling_does_not_matter (raw : String) :
    TypeName.normalize (TypeName.normalize raw) = TypeName.normalize raw ∧
    TypeName.IsNormal (TypeName.normalize raw) ∧
    ∀ other, Relation.EqvGen TypeName.Respells raw other →
      TypeName.normalize other = TypeName.normalize raw ∧
      ∀ t ∈ tables, ∀ engine, t.mapType engine other = t.mapType engine raw := by
  refine ⟨?_, TypeName.isNormal_normalize raw, ?_⟩
  · exact TypeName.normalize_eq_of_words_eq (TypeName.words_normalize raw)
  · intro other hother
    have hwords : TypeName.words other = TypeName.words raw := by
      induction hother with
      | rel _ _ hstep => exact hstep.words_eq
      | refl _ => rfl
      | symm _ _ _ ih => exact ih.symm
      | trans _ _ _ _ _ ih ih' => exact ih'.trans ih
    have hname := TypeName.normalize_eq_of_words_eq hwords
    refine ⟨hname, ?_⟩
    intro t _ engine
    exact t.mapType_congr hname engine

/-- A precision, loose blanks and capitals, and an argument in the middle of a word. -/
theorem loose_timestamp_is_timestamp :
    Relation.EqvGen TypeName.Respells "TIMESTAMP with time zone"
      "\ttimestamp(6 (x)) With\n Time Zo(a)ne" ∧
    TypeName.normalize "\ttimestamp(6 (x)) With\n Time Zo(a)ne" = "timestamp with time zone" ∧
    java.mapType .postgres "\ttimestamp(6 (x)) With\n Time Zo(a)ne" = "OffsetDateTime" := by
  have hcase : TypeName.Respells "TIMESTAMP with time zone" "timestamp With Time Zone" :=
    .letterCase (by decide +kernel)
  have hprecision : TypeName.Respells ("timestamp" ++ " With Time Zone")
      ("timestamp" ++ "(" ++ "6 (x)" ++ ")" ++ " With Time Zone") :=
    .argument (by decide +kernel) _ _
  have hgap : TypeName.Respells ("timestamp(6 (x)) With" ++ " " ++ "Time Zone")
      ("timestamp(6 (x)) With" ++ "\n " ++ "Time Zone") :=
    .blanks (by decide +kernel) (by decide +kernel) _ _
  have hinside : TypeName.Respells ("timestamp(6 (x)) With\n Time Zo" ++ "ne")
      ("timestamp(6 (x)) With\n Time Zo" ++ "(" ++ "a" ++ ")" ++ "ne") :=
    .argument (by decide +kernel) _ _
  have hbefore : TypeName.Respells "timestamp(6 (x)) With\n Time Zo(a)ne"
      ("\t" ++ "timestamp(6 (x)) With\n Time Zo(a)ne") :=
    .before (by decide +kernel) _
  have hspelt : Relation.EqvGen TypeName.Respells "TIMESTAMP with time zone"
      "\ttimestamp(6 (x)) With\n Time Zo(a)ne" := by
    refine .trans _ _ _ (.rel _ _ hcase) ?_
    refine .trans _ _ _ (.rel _ _ hprecision) ?_
    refine .trans _ _ _ (.rel _ _ hgap) ?_
    refine .trans _ _ _ (.rel _ _ hinside) ?_
    exact .rel _ _ hbefore
  obtain ⟨hname, htypes⟩ := (spelling_does_not_matter "TIMESTAMP with time zone").2.2 _ hspelt
  refine ⟨hspelt, ?_, ?_⟩
  · rw [hname]
    decide +kernel
  · rw [htypes java (by simp [tables]) .postgres]
    decide +kernel

end TypeTable

end SchemaCodegen
