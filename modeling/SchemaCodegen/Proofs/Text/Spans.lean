import SchemaCodegen.Proofs.Text.ByteOrder
import SchemaCodegen.Proofs.Text.Occurrence

/-!
# The text in a span

What is shown for a word is a span, and the bytes of the text in it are those of the
word. Together with the place this says all about the span: it is where the word
stands in quotes for the first time, or where it stands for the first time, if it
stands nowhere in quotes. There is no span for a word that does not occur, and none
for the empty word where there are no two quotes side by side.
-/

namespace SchemaCodegen.Text

/-- The bytes of a text in a span. -/
def Span.bytesIn (span : Span) (source : String) : List UInt8 :=
  ((bytes source).drop span.start).take span.length

variable {word cs : List Char} {place : Nat}

theorem length_flatMap_utf8EncodeChar (cs : List Char) :
    (cs.flatMap String.utf8EncodeChar).length = byteCount cs := by
  induction cs with
  | nil => rfl
  | cons c cs ih =>
      simp [ih, byteCount]

/-- The bytes of a text where a word stands are the bytes of the word. -/
theorem StandsAt.bytesIn_eq {source needle : String}
    (h : StandsAt needle.toList source.toList place) :
    Span.bytesIn ⟨place, needle.utf8ByteSize⟩ source = bytes needle := by
  obtain ⟨before, after, hsource, rfl⟩ := h
  simp only [Span.bytesIn, bytes_eq, hsource, List.flatMap_append, utf8ByteSize_eq,
    ← length_flatMap_utf8EncodeChar before, ← length_flatMap_utf8EncodeChar needle.toList,
    List.drop_left, List.take_left]

theorem StandsAt.stop_le {source needle : String}
    (h : StandsAt needle.toList source.toList place) :
    (⟨place, needle.utf8ByteSize⟩ : Span).stop ≤ source.utf8ByteSize := by
  obtain ⟨before, after, hsource, rfl⟩ := h
  simp only [Span.stop, utf8ByteSize_eq, hsource, byteCount_append]
  omega

/-- A word in quotes stands one byte behind the first quote. -/
theorem StandsAt.inside (h : StandsAt (inQuotes word) cs place) : StandsAt word cs (place + 1) := by
  obtain ⟨before, after, rfl, rfl⟩ := h
  refine ⟨before ++ ['"'], '"' :: after, by simp [inQuotes], ?_⟩
  exact byteCount_append before ['"']

/-- The text at the span is the word, and the span is in the text. -/
structure Holds (source needle : String) (span : Span) : Prop where
  stop_le : span.stop ≤ source.utf8ByteSize
  length_eq : span.length = needle.utf8ByteSize
  bytesIn_eq : span.bytesIn source = bytes needle

theorem StandsAt.holds {source needle : String} (h : StandsAt needle.toList source.toList place) :
    Holds source needle ⟨place, needle.utf8ByteSize⟩ :=
  ⟨h.stop_le, rfl, h.bytesIn_eq⟩

namespace Shown

variable {source needle : String} {span? : Option Span} (h : Shown source needle span?)
include h

theorem holds {span : Span} (hspan : span? = some span) : Holds source needle span := by
  cases h with
  | quoted first =>
      cases hspan
      exact first.stands.inside.holds
  | bare _ _ first =>
      cases hspan
      exact first.stands.holds
  | nowhere => cases hspan

theorem eq_quoted (hquoted : inQuotes needle.toList <:+: source.toList) :
    ∃ place, FirstAt (inQuotes needle.toList) source.toList place ∧
      span? = some ⟨place + 1, needle.utf8ByteSize⟩ := by
  cases h with
  | quoted first => exact ⟨_, first, rfl⟩
  | bare unquoted | nowhere unquoted =>
      exact absurd hquoted (forall_not_standsAt_iff.mp unquoted)

theorem eq_bare (hunquoted : ¬ inQuotes needle.toList <:+: source.toList) (hne : needle ≠ "")
    (hoccurs : needle.toList <:+: source.toList) :
    ∃ place, FirstAt needle.toList source.toList place ∧
      span? = some ⟨place, needle.utf8ByteSize⟩ := by
  cases h with
  | quoted first => exact absurd (exists_standsAt_iff.mp ⟨_, first.stands⟩) hunquoted
  | bare _ _ first => exact ⟨_, first, rfl⟩
  | nowhere _ absent =>
      rcases absent with rfl | habsent
      · exact absurd rfl hne
      · exact absurd hoccurs (forall_not_standsAt_iff.mp habsent)

theorem eq_none_iff :
    span? = none ↔ needle ≠ "" ∧ ¬ needle.toList <:+: source.toList ∨
      needle = "" ∧ ¬ ['"', '"'] <:+: source.toList := by
  cases h with
  | quoted first =>
      -- the word stands inside its quotes, and the quotes of the empty word are side by side
      refine iff_of_false (by simp) ?_
      rintro (⟨-, habsent⟩ | ⟨rfl, habsent⟩)
      · exact habsent (exists_standsAt_iff.mp ⟨_, first.stands.inside⟩)
      · exact habsent (exists_standsAt_iff.mp ⟨_, first.stands⟩)
  | bare _ nonempty first =>
      refine iff_of_false (by simp) ?_
      rintro (⟨-, habsent⟩ | ⟨hempty, -⟩)
      · exact habsent (exists_standsAt_iff.mp ⟨_, first.stands⟩)
      · exact nonempty hempty
  | nowhere unquoted absent =>
      refine iff_of_true rfl ?_
      by_cases hempty : needle = ""
      · subst hempty
        exact Or.inr ⟨rfl, forall_not_standsAt_iff.mp unquoted⟩
      · exact Or.inl ⟨hempty, forall_not_standsAt_iff.mp (absent.resolve_left hempty)⟩

end Shown

/-- **A word is shown where it stands.** What is shown is in the text and is the word. A word that
occurs in quotes is shown inside the first of its quotes, another one that is not empty where it
occurs first, and nothing is shown exactly for a word that does not occur, and for the empty word
where no two quotes stand side by side. -/
theorem first_occurrence_shown (source needle : String) :
    (∀ span, findSpan source needle = some span → Holds source needle span) ∧
    (inQuotes needle.toList <:+: source.toList →
      ∃ place, FirstAt (inQuotes needle.toList) source.toList place ∧
        findSpan source needle = some ⟨place + 1, needle.utf8ByteSize⟩) ∧
    (¬ inQuotes needle.toList <:+: source.toList → needle ≠ "" →
      needle.toList <:+: source.toList →
        ∃ place, FirstAt needle.toList source.toList place ∧
          findSpan source needle = some ⟨place, needle.utf8ByteSize⟩) ∧
    (findSpan source needle = none ↔
      needle ≠ "" ∧ ¬ needle.toList <:+: source.toList ∨
        needle = "" ∧ ¬ ['"', '"'] <:+: source.toList) := by
  have hshown := shown_findSpan source needle
  exact ⟨fun _ => hshown.holds, hshown.eq_quoted, hshown.eq_bare, hshown.eq_none_iff⟩

/-- A word that occurs without quotes before it occurs in quotes, behind a character of two bytes;
words with a quote in them; a word of which only a part occurs; and the empty word. -/
theorem quoted_word_shown :
    let source := "é ab \"aab\" \"ab\""
    findSpan source "ab" = some ⟨13, 2⟩ ∧ Holds source "ab" ⟨13, 2⟩ ∧
      (∃ place, FirstAt (inQuotes "ab".toList) source.toList place ∧
        findSpan source "ab" = some ⟨place + 1, 2⟩) ∧
      (∃ place, FirstAt "b\" ".toList source.toList place ∧
        findSpan source "b\" " = some ⟨place, 3⟩) ∧
      findSpan source "abb" = none ∧ findSpan source "" = none := by
  intro source
  have hfacts : findSpan source "ab" = some ⟨13, 2⟩ ∧
      inQuotes "ab".toList <:+: source.toList ∧ ¬ inQuotes "b\" ".toList <:+: source.toList ∧
      "b\" ".toList <:+: source.toList ∧ ¬ "abb".toList <:+: source.toList ∧
      ¬ ['"', '"'] <:+: source.toList := by
    decide +kernel
  obtain ⟨hspan, hquoted, hunquoted, hbare, habsent, hapart⟩ := hfacts
  obtain ⟨hholds, hinside, -, -⟩ := first_occurrence_shown source "ab"
  refine ⟨hspan, hholds _ hspan, hinside hquoted, ?_, ?_, ?_⟩
  · exact (first_occurrence_shown source "b\" ").2.2.1 hunquoted (by decide) hbare
  · exact (first_occurrence_shown source "abb").2.2.2.mpr (Or.inl ⟨by decide, habsent⟩)
  · exact (first_occurrence_shown source "").2.2.2.mpr (Or.inr ⟨rfl, hapart⟩)

end SchemaCodegen.Text
