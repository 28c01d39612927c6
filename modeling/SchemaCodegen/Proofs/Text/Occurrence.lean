import SchemaCodegen.Text.Position

/-!
# Occurrences in a text

A word stands at a place of a text if as many bytes come before it there. The
search for a word finds the first of these places. What is shown for a word is the
inside of its first occurrence in double quotes, wherever that is, and an
occurrence without quotes only if there is none in quotes. Two occurrences of a
word in quotes have at most a quote in common.
-/

namespace SchemaCodegen.Text

variable {word cs : List Char} {place : Nat}

@[simp] theorem byteCount_append (cs ds : List Char) :
    byteCount (cs ++ ds) = byteCount cs + byteCount ds := by
  induction cs with
  | nil => simp [byteCount]
  | cons c cs ih =>
      simp [byteCount, ih, Nat.add_assoc]

theorem utf8ByteSize_ofList (cs : List Char) : (String.ofList cs).utf8ByteSize = byteCount cs := by
  induction cs with
  | nil => rfl
  | cons c cs ih =>
      have hsplit : String.ofList (c :: cs) = String.singleton c ++ String.ofList cs := by
        rw [String.singleton_eq_ofList, ← String.ofList_append]
        rfl
      rw [hsplit, String.utf8ByteSize_append, String.utf8ByteSize_singleton, ih, byteCount]

theorem utf8ByteSize_eq (s : String) : s.utf8ByteSize = byteCount s.toList := by
  rw [← utf8ByteSize_ofList, String.ofList_toList]

/-! ## Words in a text -/

/-- A word stands in a text, with `place` bytes before it. -/
def StandsAt (word cs : List Char) (place : Nat) : Prop :=
  ∃ before after, cs = before ++ (word ++ after) ∧ byteCount before = place

theorem standsAt_nil_iff : StandsAt word [] place ↔ word = [] ∧ place = 0 := by
  constructor
  · rintro ⟨before, after, hcs, rfl⟩
    obtain ⟨rfl, hrest⟩ := List.append_eq_nil_iff.mp hcs.symm
    exact ⟨(List.append_eq_nil_iff.mp hrest).1, rfl⟩
  · rintro ⟨rfl, rfl⟩
    exact ⟨[], [], rfl, rfl⟩

theorem standsAt_cons_iff {c : Char} :
    StandsAt word (c :: cs) place ↔
      place = 0 ∧ word <+: c :: cs ∨ ∃ rest, place = c.utf8Size + rest ∧ StandsAt word cs rest := by
  constructor
  · rintro ⟨before, after, hcs, rfl⟩
    rcases before with _ | ⟨d, before⟩
    · exact Or.inl ⟨rfl, after, hcs.symm⟩
    · obtain ⟨rfl, hrest⟩ := List.cons.inj hcs
      exact Or.inr ⟨byteCount before, rfl, before, after, hrest, rfl⟩
  · rintro (⟨rfl, after, hcs⟩ | ⟨rest, rfl, before, after, rfl, rfl⟩)
    · exact ⟨[], after, hcs.symm, rfl⟩
    · exact ⟨c :: before, after, rfl, rfl⟩

theorem StandsAt.behind (h : StandsAt word cs place) (front : List Char) :
    StandsAt word (front ++ cs) (byteCount front + place) := by
  obtain ⟨before, after, rfl, rfl⟩ := h
  exact ⟨front ++ before, after, by simp, by simp⟩

/-- The first place at which a word stands. -/
structure FirstAt (word cs : List Char) (place : Nat) : Prop where
  stands : StandsAt word cs place
  first : ∀ other, StandsAt word cs other → place ≤ other

theorem FirstAt.unique {other : Nat} (h : FirstAt word cs place) (h' : FirstAt word cs other) :
    place = other :=
  Nat.le_antisymm (h.first other h'.stands) (h'.first place h.stands)

/-- The first place is the place at hand if there is none before that. -/
theorem FirstAt.eq_or_lt {found : Nat} (h : FirstAt word cs found)
    (hstands : StandsAt word cs place) :
    found = place ∧ (∀ other < place, ¬ StandsAt word cs other) ∨
      found < place ∧ ¬ ∀ other < place, ¬ StandsAt word cs other := by
  rcases Nat.lt_or_eq_of_le (h.first place hstands) with hlt | rfl
  · exact Or.inr ⟨hlt, fun hnone => hnone found hlt h.stands⟩
  · refine Or.inl ⟨rfl, ?_⟩
    intro other hlt hother
    exact absurd (h.first other hother) (Nat.not_le_of_lt hlt)

/-- The search finds the first place, or there is none. -/
theorem findFirst_cases (word cs : List Char) :
    (∃ place, findFirst word cs = some place ∧ FirstAt word cs place) ∨
      findFirst word cs = none ∧ ∀ place, ¬ StandsAt word cs place := by
  induction cs with
  | nil =>
      by_cases hword : word = []
      · subst hword
        exact Or.inl ⟨0, rfl, standsAt_nil_iff.mpr ⟨rfl, rfl⟩, fun _ _ => Nat.zero_le _⟩
      · right
        constructor
        · simp [findFirst, hword]
        · intro place hstands
          exact hword (standsAt_nil_iff.mp hstands).1
  | cons c cs ih =>
      rw [findFirst]
      by_cases hprefix : word.isPrefixOf (c :: cs) = true
      · rw [if_pos hprefix]
        refine Or.inl ⟨0, rfl, ?_, fun _ _ => Nat.zero_le _⟩
        exact standsAt_cons_iff.mpr (Or.inl ⟨rfl, List.isPrefixOf_iff_prefix.mp hprefix⟩)
      · rw [if_neg hprefix]
        -- the word does not stand at the first character, so it stands behind it or nowhere
        rw [List.isPrefixOf_iff_prefix] at hprefix
        rcases ih with ⟨rest, hfound, hfirst⟩ | ⟨hfound, hnowhere⟩
        · refine Or.inl ⟨c.utf8Size + rest, by rw [hfound, Option.map_some], ?_, ?_⟩
          · exact standsAt_cons_iff.mpr (Or.inr ⟨rest, rfl, hfirst.stands⟩)
          · intro other hother
            rcases standsAt_cons_iff.mp hother with ⟨-, h⟩ | ⟨rest', rfl, h⟩
            · exact absurd h hprefix
            · exact Nat.add_le_add_left (hfirst.first rest' h) _
        · refine Or.inr ⟨by rw [hfound, Option.map_none], ?_⟩
          intro place hplace
          rcases standsAt_cons_iff.mp hplace with ⟨-, h⟩ | ⟨rest, -, h⟩
          · exact hprefix h
          · exact hnowhere rest h

theorem findFirst_eq_some_iff : findFirst word cs = some place ↔ FirstAt word cs place := by
  rcases findFirst_cases word cs with ⟨found, heq, hfirst⟩ | ⟨heq, hnowhere⟩
  · rw [heq, Option.some.injEq]
    constructor
    · rintro rfl
      exact hfirst
    · exact hfirst.unique
  · rw [heq]
    exact iff_of_false (by simp) fun h => hnowhere place h.stands

theorem findFirst_eq_none_iff : findFirst word cs = none ↔ ∀ place, ¬ StandsAt word cs place := by
  rcases findFirst_cases word cs with ⟨found, heq, hfirst⟩ | ⟨heq, hnowhere⟩
  · rw [heq]
    exact iff_of_false (by simp) fun h => h found hfirst.stands
  · exact iff_of_true heq hnowhere

/-- A word stands somewhere in a text exactly if it is a run of its characters. -/
theorem exists_standsAt_iff : (∃ place, StandsAt word cs place) ↔ word <:+: cs := by
  constructor
  · rintro ⟨place, before, after, rfl, -⟩
    exact ⟨before, after, List.append_assoc ..⟩
  · rintro ⟨before, after, rfl⟩
    exact ⟨_, before, after, List.append_assoc .., rfl⟩

theorem forall_not_standsAt_iff : (∀ place, ¬ StandsAt word cs place) ↔ ¬ word <:+: cs := by
  rw [← exists_standsAt_iff, not_exists]

theorem occursIn_iff {word s : String} : occursIn word s = true ↔ word.toList <:+: s.toList := by
  rw [occursIn, Option.isSome_iff_ne_none, ne_eq, findFirst_eq_none_iff, forall_not_standsAt_iff,
    Classical.not_not]

/-! ## Words in quotes -/

def inQuotes (word : List Char) : List Char := '"' :: (word ++ ['"'])

/-- A quoted word that starts before another one ends before the word there starts, as it has no
quote in it. -/
theorem StandsAt.stop_le_of_quoted {other : Nat} (hword : '"' ∉ word)
    (h : StandsAt (inQuotes word) cs place) (h' : StandsAt (inQuotes word) cs other)
    (hlt : other < place) : other + 1 + byteCount word ≤ place := by
  obtain ⟨before, after, hcs, rfl⟩ := h
  obtain ⟨before', after', hcs', rfl⟩ := h'
  rw [hcs, List.append_eq_append_iff] at hcs'
  rcases hcs' with ⟨between, rfl, -⟩ | ⟨between, rfl, hrest⟩
  · rw [byteCount_append] at hlt
    omega
  · rcases between with _ | ⟨c, between⟩
    · rw [List.append_nil] at hlt
      omega
    · simp only [inQuotes, List.cons_append, List.append_assoc, List.cons.injEq] at hrest
      obtain ⟨rfl, hrest⟩ := hrest
      rw [byteCount_append, byteCount]
      -- the word cannot end behind the quote that opens the other one
      have hle : byteCount word ≤ byteCount between := by
        rcases List.append_eq_append_iff.mp hrest with ⟨m, rfl, -⟩ | ⟨m, rfl, hm⟩
        · rw [byteCount_append]
          omega
        · rcases m with _ | ⟨d, m⟩
          · simp
          · obtain ⟨rfl, -⟩ := List.cons.inj hm
            exact absurd (by simp) hword
      have hquote : '"'.utf8Size = 1 := rfl
      omega

/-! ## What is shown for a word -/

/-- A stretch of a text is part of another. -/
def Span.LiesIn (inner outer : Span) : Prop :=
  outer.start ≤ inner.start ∧ inner.stop ≤ outer.stop

instance (inner outer : Span) : Decidable (inner.LiesIn outer) :=
  inferInstanceAs (Decidable (_ ∧ _))

/-- The span that is shown for a word: the inside of the first occurrence in quotes, or else the
first occurrence of a word that is not empty. -/
inductive Shown (source needle : String) : Option Span → Prop where
  | quoted {place : Nat} (first : FirstAt (inQuotes needle.toList) source.toList place) :
      Shown source needle (some ⟨place + 1, needle.utf8ByteSize⟩)
  | bare {place : Nat}
      (unquoted : ∀ other, ¬ StandsAt (inQuotes needle.toList) source.toList other)
      (nonempty : needle ≠ "") (first : FirstAt needle.toList source.toList place) :
      Shown source needle (some ⟨place, needle.utf8ByteSize⟩)
  | nowhere (unquoted : ∀ other, ¬ StandsAt (inQuotes needle.toList) source.toList other)
      (absent : needle = "" ∨ ∀ other, ¬ StandsAt needle.toList source.toList other) :
      Shown source needle none

theorem shown_findSpan (source needle : String) : Shown source needle (findSpan source needle) := by
  unfold findSpan
  rcases findFirst_cases (inQuotes needle.toList) source.toList with
    ⟨place, hfound, hfirst⟩ | ⟨hfound, hunquoted⟩
  · simp only [inQuotes] at hfound
    simp only [List.cons_append, hfound]
    exact .quoted hfirst
  · simp only [inQuotes] at hfound
    simp only [List.cons_append, hfound]
    by_cases hempty : needle = ""
    · subst hempty
      exact .nowhere hunquoted (Or.inl rfl)
    · rw [if_neg (by simpa using hempty)]
      rcases findFirst_cases needle.toList source.toList with
        ⟨place, hfound', hfirst⟩ | ⟨hfound', hnowhere⟩
      · rw [hfound', Option.map_some]
        exact .bare hunquoted hempty hfirst
      · rw [hfound', Option.map_none]
        exact .nowhere hunquoted (Or.inr hnowhere)

variable {source needle : String} {span : Option Span}

/-- What is shown for a word that stands in quotes at a place is the inside of these quotes if it
stands so nowhere before, and otherwise something before them. -/
structure AimsInside (source needle : String) (place : Nat) (span : Option Span) : Prop where
  inside_iff : span = some ⟨place + 1, needle.utf8ByteSize⟩ ↔
    ∀ other < place, ¬ StandsAt (inQuotes needle.toList) source.toList other
  before : span ≠ some ⟨place + 1, needle.utf8ByteSize⟩ →
    ∃ found, span = some found ∧ found.stop ≤ place

theorem Shown.aimsInside (h : Shown source needle span) (hneedle : '"' ∉ needle.toList)
    (hstands : StandsAt (inQuotes needle.toList) source.toList place) :
    AimsInside source needle place span := by
  rcases h with ⟨hfirst⟩ | ⟨hunquoted, -, -⟩ | ⟨hunquoted, -⟩
  · rcases hfirst.eq_or_lt hstands with ⟨rfl, hnone⟩ | ⟨hlt, hsome⟩
    · exact ⟨iff_of_true rfl hnone, fun hne => absurd rfl hne⟩
    · have hstop := hstands.stop_le_of_quoted hneedle hfirst.stands hlt
      refine ⟨iff_of_false ?_ hsome, fun _ => ⟨_, rfl, ?_⟩⟩
      · simp
        omega
      · rw [Span.stop, utf8ByteSize_eq]
        exact hstop
  · exact absurd hstands (hunquoted place)
  · exact absurd hstands (hunquoted place)

/-- What is shown for a word that stands at a place, and nowhere in quotes, is the word there if it
stands nowhere before, and otherwise something that starts before it. -/
structure AimsAt (source needle : String) (place : Nat) (span : Option Span) : Prop where
  at_iff : span = some ⟨place, needle.utf8ByteSize⟩ ↔
    ∀ other < place, ¬ StandsAt needle.toList source.toList other
  before : span ≠ some ⟨place, needle.utf8ByteSize⟩ →
    ∃ found, span = some found ∧ found.start < place

theorem Shown.aimsAt (h : Shown source needle span) (hneedle : needle ≠ "")
    (hunquoted : ∀ other, ¬ StandsAt (inQuotes needle.toList) source.toList other)
    (hstands : StandsAt needle.toList source.toList place) :
    AimsAt source needle place span := by
  rcases h with ⟨hfirst⟩ | ⟨-, -, hfirst⟩ | ⟨-, habsent⟩
  · exact absurd hfirst.stands (hunquoted _)
  · rcases hfirst.eq_or_lt hstands with ⟨rfl, hnone⟩ | ⟨hlt, hsome⟩
    · exact ⟨iff_of_true rfl hnone, fun hne => absurd rfl hne⟩
    · refine ⟨iff_of_false ?_ hsome, fun _ => ⟨_, rfl, hlt⟩⟩
      simp
      omega
  · rcases habsent with hempty | habsent
    · exact absurd hempty hneedle
    · exact absurd hstands (habsent place)

end SchemaCodegen.Text
