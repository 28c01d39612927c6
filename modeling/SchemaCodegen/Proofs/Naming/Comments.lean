import SchemaCodegen.Naming.Member
import SchemaCodegen.Proofs.Layout.Rendering
import SchemaCodegen.Proofs.Text.Segments

/-!
# Comments on one line

A comment is shown as its words, with one space between two of them, and every
`*/` in it is broken up by a backslash. A word has no blanks, and every
character that ends a line is one. The backslash can make no new `*/`: what is
behind it is a slash, and what is before it a star. So a shown comment stands on
one line and leaves the comment around it open, and showing it once more changes
nothing.
-/

namespace SchemaCodegen.Naming

open Text

/-! ## Ends of comments -/

/-- Whether a character ends a line of TypeScript. -/
def endsLine (c : Char) : Bool := c == '\n' || c == '\r' || c == '\u2028' || c == '\u2029'

/-- A text starts with the end of a comment, or has one further on. -/
theorem commentEnd_infix_cons_iff {c : Char} {cs : List Char} :
    ['*', '/'] <:+: c :: cs ↔ (c = '*' ∧ cs.head? = some '/') ∨ ['*', '/'] <:+: cs := by
  have hprefix : ['*', '/'] <+: c :: cs ↔ c = '*' ∧ cs.head? = some '/' := by
    cases cs with
    | nil => simp
    | cons d rest => simp [eq_comm]
  rw [List.infix_cons_iff, hprefix]

theorem head?_breakCommentEnd (cs : List Char) : (breakCommentEnd cs).head? = cs.head? := by
  fun_cases breakCommentEnd cs <;> rfl

/-- No end of a comment is left, and none has come about. -/
theorem breakCommentEnd_free (cs : List Char) : ¬['*', '/'] <:+: breakCommentEnd cs := by
  fun_induction breakCommentEnd cs with
  | case1 => simp
  | case2 rest ih => simp [commentEnd_infix_cons_iff, ih]
  | case3 c rest hnone ih =>
      -- breaking up the rest keeps its first character, so no slash moves up to a star
      rw [commentEnd_infix_cons_iff, head?_breakCommentEnd]
      rintro (⟨rfl, hslash⟩ | hrest)
      · obtain ⟨behind, hrest⟩ := List.head?_eq_some_iff.mp hslash
        exact hnone behind rfl hrest
      · exact ih hrest

theorem breakCommentEnd_of_free {cs : List Char} (h : ¬['*', '/'] <:+: cs) :
    breakCommentEnd cs = cs := by
  fun_induction breakCommentEnd cs with
  | case1 => rfl
  | case2 rest ih => exact absurd (List.prefix_append ['*', '/'] rest).isInfix h
  | case3 c rest hnone ih =>
      rw [commentEnd_infix_cons_iff, not_or] at h
      rw [ih h.2]

theorem mem_of_mem_breakCommentEnd {cs : List Char} {c : Char} (h : c ∈ breakCommentEnd cs) :
    c ∈ cs ∨ c = '\\' := by
  fun_induction breakCommentEnd cs with
  | case1 => cases h
  | case2 rest ih =>
      simp only [List.mem_cons] at h ⊢
      tauto
  | case3 first rest hnone ih =>
      simp only [List.mem_cons] at h ⊢
      tauto

/-- A space parts a text, since no end of a comment reaches over it. -/
theorem breakCommentEnd_append_space (cs ds : List Char) :
    breakCommentEnd (cs ++ ' ' :: ds) = breakCommentEnd cs ++ ' ' :: breakCommentEnd ds := by
  fun_induction breakCommentEnd cs with
  | case1 => rw [List.nil_append, List.nil_append, breakCommentEnd]; simp
  | case2 rest ih => rw [List.cons_append, List.cons_append, breakCommentEnd, ih]; rfl
  | case3 c rest hnone ih =>
      rw [List.cons_append, breakCommentEnd, ih, List.cons_append]
      -- what comes next in the longer text is what comes next in `rest`, or the space
      intro behind hstar hrest
      cases rest with
      | nil => cases hrest
      | cons d rest =>
          obtain ⟨hslash, -⟩ := List.cons.inj hrest
          exact hnone rest hstar (by rw [hslash])

theorem breakCommentEnd_intercalate (words : List (List Char)) :
    breakCommentEnd ([' '].intercalate words) = [' '].intercalate (words.map breakCommentEnd) := by
  induction words with
  | nil => rfl
  | cons first rest ih =>
      cases rest with
      | nil => simp
      | cons second rest =>
          rw [List.intercalate_cons_cons, List.append_assoc, List.singleton_append,
            breakCommentEnd_append_space, ih]
          simp

/-! ## Shown comments -/

/-- The words of a comment as they are shown. -/
def shownWords (s : String) : List (List Char) := (segments isBlank s.toList).map breakCommentEnd

theorem commentText_eq_intercalate (s : String) :
    commentText s = String.ofList ([' '].intercalate (shownWords s)) := by
  rw [commentText, collapseBlanks, breakCommentEnd_intercalate, shownWords]

/-- A word that is shown has characters, none of them blank. -/
theorem shownWords_free {s : String} {word : List Char} (h : word ∈ shownWords s) :
    word ≠ [] ∧ ∀ c ∈ word, isBlank c = false := by
  obtain ⟨given, hgiven, rfl⟩ := List.mem_map.mp h
  refine ⟨?_, fun c hc => ?_⟩
  · intro hnil
    have hhead := head?_breakCommentEnd given
    rw [hnil, List.head?_nil, eq_comm, List.head?_eq_none_iff] at hhead
    exact ne_nil_of_mem_segments hgiven hhead
  · rcases mem_of_mem_breakCommentEnd hc with hc | rfl
    · exact free_of_mem_segments hgiven c hc
    · decide

theorem segments_commentText (s : String) :
    segments isBlank (commentText s).toList = shownWords s := by
  rw [commentText_eq_intercalate, String.toList_ofList]
  exact segments_intercalate (by decide) fun word hword => shownWords_free hword

/-- Showing a comment that is shown changes nothing. -/
theorem commentText_commentText (s : String) : commentText (commentText s) = commentText s := by
  have hbroken : (shownWords s).map breakCommentEnd = shownWords s := by
    rw [shownWords, List.map_map]
    apply List.map_congr_left
    intro word _
    exact breakCommentEnd_of_free (breakCommentEnd_free word)
  rw [commentText_eq_intercalate (commentText s), shownWords, segments_commentText, hbroken,
    ← commentText_eq_intercalate]

theorem commentText_trim (s : String) : commentText (trim s) = commentText s := by
  rw [commentText, commentText, collapseBlanks, collapseBlanks, trim, String.toList_ofList,
    segments_trimChars]

/-- The only blanks in a shown comment are spaces. -/
theorem eq_space_of_mem_commentText {s : String} {c : Char} (h : c ∈ (commentText s).toList)
    (hblank : isBlank c = true) : c = ' ' := by
  rw [commentText_eq_intercalate, String.toList_ofList] at h
  obtain hspace | ⟨word, hword, hc⟩ := mem_of_mem_intercalate h
  · exact List.mem_singleton.mp hspace
  · rw [(shownWords_free hword).2 c hc] at hblank
    cases hblank

/-- Every character that ends a line is a blank, and no space. -/
theorem isBlank_of_endsLine {c : Char} (h : endsLine c = true) : isBlank c = true ∧ c ≠ ' ' := by
  have hall : ['\n', '\r', '\u2028', '\u2029'].all (fun d => isBlank d && d != ' ') = true := by
    decide
  have hmem : c ∈ ['\n', '\r', '\u2028', '\u2029'] := by
    simpa [endsLine, or_assoc] using h
  simpa using List.all_eq_true.mp hall c hmem

theorem endsLine_of_mem_commentText {s : String} {c : Char} (h : c ∈ (commentText s).toList) :
    endsLine c = false := by
  rw [Bool.eq_false_iff]
  intro hends
  obtain ⟨hblank, hne⟩ := isBlank_of_endsLine hends
  exact hne (eq_space_of_mem_commentText h hblank)

/-- Neither the star that opens a comment nor the one that closes it makes an end of a comment with
the shown text between them. -/
theorem commentText_leaves_open (s : String) :
    ¬['*', '/'] <:+: '*' :: ' ' :: (commentText s).toList ++ [' ', '*'] := by
  have haround : breakCommentEnd (['*'] ++ ' ' :: (collapseBlanks s.toList ++ ' ' :: ['*'])) =
      '*' :: ' ' :: (commentText s).toList ++ [' ', '*'] := by
    rw [breakCommentEnd_append_space, breakCommentEnd_append_space, commentText,
      String.toList_ofList]
    rfl
  rw [← haround]
  exact breakCommentEnd_free _

example : commentText " a\t**/ */*/\u2028b" = "a **\\/ *\\/*\\/ b" := by decide

end SchemaCodegen.Naming
