import Mathlib.Data.List.Induction
import SchemaCodegen.Text.Literal

/-!
# Literals read back

A reader of source takes a literal from its opening quote to the first quote
that no backslash escapes, and turns every escape back into what it stands for.
It owes nothing to the printer. What the printer writes for a text is a literal
to the reader: no quote ends it early, no backslash swallows its last quote,
and the value is the text.

Whether a quote is escaped can be told from the run of backslashes before it.
The reader goes through the text from the left instead, and remembers whether
the character before was an escape. Both come to the same.
-/

namespace SchemaCodegen.Text

/-! ## Reading a literal -/

/-- What an escape of a quote or a backslash stands for. -/
def unescapeQuote (d : Char) : Option Char :=
  match d with
  | '"' => some '"'
  | '\\' => some '\\'
  | _ => none

/-- What an escape stands for where line feed, carriage return and tab have letters. -/
def unescapeQuoteOrBreak (d : Char) : Option Char :=
  match d with
  | 'n' => some '\n'
  | 'r' => some '\r'
  | 't' => some '\t'
  | d => unescapeQuote d

/-- The value of a literal that has been opened, and what follows the quote that closes it. -/
def readOpened (unescape : Char → Option Char) : List Char → Option (List Char × List Char)
  | [] => none
  | '"' :: rest => some ([], rest)
  | ['\\'] => none
  | '\\' :: d :: rest => do
    let c ← unescape d
    let (value, after) ← readOpened unescape rest
    return (c :: value, after)
  | c :: rest => do
    let (value, after) ← readOpened unescape rest
    return (c :: value, after)

/-- The value of the literal that a text starts with, and what follows it. -/
def readLiteral (unescape : Char → Option Char) : List Char → Option (List Char × List Char)
  | '"' :: rest => readOpened unescape rest
  | _ => none

/-- How many backslashes a text ends with. -/
def backslashRun (cs : List Char) : Nat := (cs.reverse.takeWhile (· == '\\')).length

/-- Between quotes, the text ends where it ends: every quote in it is escaped, and the quote
behind it is not. -/
structure StaysQuoted (body : List Char) : Prop where
  quotes : ∀ before after, body = before ++ '"' :: after → backslashRun before % 2 = 1
  ending : backslashRun body % 2 = 0

/-- The text is a literal, from its first character to its last, and has the value. -/
structure Denotes (unescape : Char → Option Char) (shown value : List Char) : Prop where
  delimited : ∃ body, shown = '"' :: body ++ ['"'] ∧ StaysQuoted body
  reads : readLiteral unescape shown = some (value, [])

theorem Denotes.eq_of_shown {unescape : Char → Option Char} {shown value other : List Char}
    (h : Denotes unescape shown value) (hother : Denotes unescape shown other) : value = other := by
  have hsame : some (value, []) = some (other, []) := h.reads.symm.trans hother.reads
  simpa using hsame

/-! ## Runs of backslashes -/

/-- Whether the character is an escape, if the one before it is one or is none. -/
def escapesNext (escaped : Bool) (c : Char) : Bool := c == '\\' && !escaped

theorem backslashRun_concat (cs : List Char) (c : Char) :
    backslashRun (cs ++ [c]) = if c == '\\' then backslashRun cs + 1 else 0 := by
  rw [backslashRun, List.reverse_append, List.reverse_singleton, List.singleton_append,
    List.takeWhile_cons]
  split
  · rfl
  · rfl

/-- The last backslash is an escape exactly if it ends a run of odd length. -/
theorem foldl_escapesNext (cs : List Char) :
    cs.foldl escapesNext false = decide (backslashRun cs % 2 = 1) := by
  induction cs using List.reverseRecOn with
  | nil => rfl
  | append_singleton cs c ih =>
      rw [List.foldl_append, ih, List.foldl_cons, List.foldl_nil, backslashRun_concat, escapesNext]
      by_cases hc : c == '\\'
      · rw [hc, if_pos rfl, Bool.true_and, ← decide_not, decide_eq_decide]
        omega
      · rw [if_neg hc, Bool.eq_false_iff.mpr hc]
        rfl

/-! ## Escapes and what they stand for -/

/-- Line feeds, carriage returns and tabs. -/
def isBreak (c : Char) : Bool := c == '\n' || c == '\r' || c == '\t'

theorem isBreak_iff {c : Char} : isBreak c = true ↔ c ∈ ['\n', '\r', '\t'] := by
  simp [isBreak, or_assoc]

theorem escapeQuoteOrBreak_of_not_break {c : Char} (h : isBreak c = false) :
    escapeQuoteOrBreak c = escapeQuote c := by
  have hne : ∀ d ∈ ['\n', '\r', '\t'], c ≠ d := by
    rintro d hd rfl
    rw [isBreak_iff.mpr hd] at h
    cases h
  rw [escapeQuoteOrBreak]
  · exact hne '\n' (by decide)
  · exact hne '\r' (by decide)
  · exact hne '\t' (by decide)

/-- Every character is written as itself, if it is neither a quote nor a backslash, or as an
escape that stands for it. -/
def Undoes (unescape : Char → Option Char) (escape : Char → List Char) : Prop :=
  ∀ c, (escape c = [c] ∧ c ≠ '"' ∧ c ≠ '\\') ∨ ∃ d, escape c = ['\\', d] ∧ unescape d = some c

theorem unescapeQuote_undoes : Undoes unescapeQuote escapeQuote := by
  intro c
  by_cases hquote : c = '"'
  · exact .inr ⟨'"', by rw [hquote]; rfl, by rw [hquote]; rfl⟩
  by_cases hbackslash : c = '\\'
  · exact .inr ⟨'\\', by rw [hbackslash]; rfl, by rw [hbackslash]; rfl⟩
  refine .inl ⟨?_, hquote, hbackslash⟩
  rw [escapeQuote]
  · exact fun h => hquote h
  · exact fun h => hbackslash h

theorem unescapeQuoteOrBreak_undoes : Undoes unescapeQuoteOrBreak escapeQuoteOrBreak := by
  intro c
  cases hbreak : isBreak c with
  | true =>
      refine .inr ?_
      obtain rfl | rfl | rfl : c = '\n' ∨ c = '\r' ∨ c = '\t' := by
        simpa using isBreak_iff.mp hbreak
      · exact ⟨'n', rfl, rfl⟩
      · exact ⟨'r', rfl, rfl⟩
      · exact ⟨'t', rfl, rfl⟩
  | false =>
      rw [escapeQuoteOrBreak_of_not_break hbreak]
      rcases unescapeQuote_undoes c with hself | ⟨d, hd, hc⟩
      · exact .inl hself
      · -- the two escapes of `escapeQuote` are no letters
        refine .inr ⟨d, hd, ?_⟩
        have hletter : d ≠ 'n' ∧ d ≠ 'r' ∧ d ≠ 't' := by
          refine ⟨?_, ?_, ?_⟩ <;> rintro rfl <;> cases hc
        rw [unescapeQuoteOrBreak]
        · exact hc
        · exact hletter.1
        · exact hletter.2.1
        · exact hletter.2.2

variable {unescape : Char → Option Char} {escape : Char → List Char}

@[simp] theorem toList_literal (s : String) :
    (literal escape s).toList = literalChars escape s.toList := String.toList_ofList

theorem readOpened_escape {d c : Char} (h : unescape d = some c) (rest : List Char) :
    readOpened unescape ('\\' :: d :: rest) =
      (readOpened unescape rest).map fun read => (c :: read.1, read.2) := by
  rw [readOpened, h]
  cases readOpened unescape rest <;> rfl

theorem readOpened_plain {c : Char} (hquote : c ≠ '"') (hbackslash : c ≠ '\\') (rest : List Char) :
    readOpened unescape (c :: rest) =
      (readOpened unescape rest).map fun read => (c :: read.1, read.2) := by
  rw [readOpened]
  · cases readOpened unescape rest <;> rfl
  · exact fun h => hquote h
  · exact fun h => absurd h hbackslash
  · exact fun _ _ h => absurd h hbackslash

/-- The reader comes to the end of what is written for a text with the text as the value. -/
theorem readOpened_flatMap (h : Undoes unescape escape) (cs after : List Char) :
    readOpened unescape (cs.flatMap escape ++ '"' :: after) = some (cs, after) := by
  induction cs with
  | nil => rfl
  | cons c cs ih =>
      rcases h c with ⟨hform, hquote, hbackslash⟩ | ⟨d, hform, hd⟩
      · rw [List.flatMap_cons, hform, List.singleton_append, List.cons_append,
          readOpened_plain hquote hbackslash, ih]
        rfl
      · rw [List.flatMap_cons, hform, List.cons_append, List.singleton_append, List.cons_append,
          List.cons_append, readOpened_escape hd, ih]
        rfl

/-- Behind what is written for a text nothing is escaped. -/
theorem foldl_escapesNext_flatMap (h : Undoes unescape escape) (cs : List Char) :
    (cs.flatMap escape).foldl escapesNext false = false := by
  induction cs with
  | nil => rfl
  | cons c cs ih =>
      rw [List.flatMap_cons, List.foldl_append]
      rcases h c with ⟨hform, -, hbackslash⟩ | ⟨d, hform, -⟩
      · have hplain : escapesNext false c = false := by simp [escapesNext, hbackslash]
        simp [hform, hplain, ih]
      · have hescaped : escapesNext (escapesNext false '\\') d = false := by simp [escapesNext]
        simp [hform, hescaped, ih]

/-- Every quote in what is written for a text is escaped. -/
theorem foldl_escapesNext_of_quote (h : Undoes unescape escape) {cs before after : List Char}
    (hquote : cs.flatMap escape = before ++ '"' :: after) :
    before.foldl escapesNext false = true := by
  induction cs generalizing before with
  | nil => simp at hquote
  | cons c cs ih =>
      rw [List.flatMap_cons] at hquote
      rcases h c with ⟨hform, hplain, hbackslash⟩ | ⟨d, hform, -⟩
      · -- the character itself is no quote, and leaves nothing escaped
        rw [hform, List.singleton_append] at hquote
        cases before with
        | nil => exact absurd (List.cons.inj hquote).1 hplain
        | cons first before =>
            obtain ⟨rfl, hrest⟩ := List.cons.inj hquote
            have hnone : escapesNext false c = false := by simp [escapesNext, hbackslash]
            rw [List.foldl_cons, hnone, ih hrest]
      -- of an escape the second character may be a quote, and that one is escaped
      · rw [hform, List.cons_append, List.singleton_append] at hquote
        cases before with
        | nil => exact absurd (List.cons.inj hquote).1 (by decide)
        | cons first before =>
            obtain ⟨rfl, hrest⟩ := List.cons.inj hquote
            cases before with
            | nil => rfl
            | cons second before =>
                obtain ⟨rfl, hbehind⟩ := List.cons.inj hrest
                have hnone : escapesNext (escapesNext false '\\') d = false := by
                  simp [escapesNext]
                simp [hnone, ih hbehind]

theorem staysQuoted_flatMap (h : Undoes unescape escape) (cs : List Char) :
    StaysQuoted (cs.flatMap escape) where
  quotes before after hquote := by
    have hescaped := foldl_escapesNext_of_quote h hquote
    rwa [foldl_escapesNext, decide_eq_true_eq] at hescaped
  ending := by
    have hfree := foldl_escapesNext_flatMap h cs
    rw [foldl_escapesNext, decide_eq_false_iff_not] at hfree
    omega

/-- A literal denotes the text it is written for. -/
theorem denotes_literal (h : Undoes unescape escape) (s : String) :
    Denotes unescape (literal escape s).toList s.toList := by
  rw [toList_literal]
  exact ⟨⟨_, rfl, staysQuoted_flatMap h s.toList⟩, readOpened_flatMap h s.toList []⟩

/-- Different texts have different literals. -/
theorem literal_injective (h : Undoes unescape escape) : Function.Injective (literal escape) := by
  intro s t heq
  have hs := denotes_literal h s
  rw [heq] at hs
  exact String.toList_inj.mp (hs.eq_of_shown (denotes_literal h t))

/-! ## Literals within a text -/

/-- The first literal in a text, with what stands before and behind it. -/
def readFirst (unescape : Char → Option Char) (shown : List Char) :
    Option (List Char × List Char × List Char) :=
  (readLiteral unescape (shown.dropWhile (· != '"'))).map fun read =>
    (shown.takeWhile (· != '"'), read.1, read.2)

/-- A text has one literal between `lead` and `after`, where there are no quotes, and the literal
has the value. -/
structure HoldsLiteral (unescape : Char → Option Char) (lead after shown value : List Char) :
    Prop where
  delimited : ∃ body, shown = lead ++ '"' :: body ++ '"' :: after ∧ StaysQuoted body
  unquoted : '"' ∉ lead ++ after
  reads : readFirst unescape shown = some (lead, value, after)

/-- Texts that hold their values are different for different values. -/
theorem HoldsLiteral.injective {lead after : List Char} {shown : String → String}
    (h : ∀ value, HoldsLiteral unescape lead after (shown value).toList value.toList) :
    Function.Injective shown := by
  intro value other heq
  have hread := (h value).reads
  rw [heq, (h other).reads] at hread
  exact String.toList_inj.mp (by simpa using hread.symm)

theorem holdsLiteral_literalChars (h : Undoes unescape escape) {lead after : List Char}
    (hunquoted : '"' ∉ lead ++ after) (cs : List Char) :
    HoldsLiteral unescape lead after (lead ++ literalChars escape cs ++ after) cs where
  delimited := by
    refine ⟨cs.flatMap escape, ?_, staysQuoted_flatMap h cs⟩
    rw [literalChars]
    simp
  unquoted := hunquoted
  reads := by
    have hlead : ∀ c ∈ lead, (c != '"') = true := by
      intro c hc
      rw [bne_iff_ne]
      rintro rfl
      exact hunquoted (List.mem_append_left after hc)
    have hliteral : literalChars escape cs ++ after =
        '"' :: (cs.flatMap escape ++ '"' :: after) := by
      rw [literalChars]
      simp
    rw [readFirst, List.append_assoc, hliteral, List.takeWhile_append_of_pos hlead,
      List.dropWhile_append_of_pos hlead, List.takeWhile_cons_of_neg (by decide),
      List.dropWhile_cons_of_neg (by decide), List.append_nil, readLiteral, readOpened_flatMap h]
    rfl

/-! ## Characters of literals -/

/-- No character but the quote and the backslash comes in or goes when a text is quoted. -/
theorem mem_literal_iff {c : Char} (hc : c ≠ '"' ∧ c ≠ '\\') (s : String) :
    c ∈ (literal escapeQuote s).toList ↔ c ∈ s.toList := by
  have hmem : ∀ d, c ∈ escapeQuote d ↔ c = d := by
    intro d
    rw [escapeQuote.eq_def]
    split <;> simp [hc]
  rw [toList_literal, literalChars]
  simp [hc, hmem]

/-! ## Breaks -/

theorem isBreak_escapeQuoteOrBreak (d : Char) :
    ∀ c ∈ escapeQuoteOrBreak d, isBreak c = false := by
  have hfree : (escapeQuoteOrBreak d).all (!isBreak ·) = true := by
    cases hbreak : isBreak d with
    | true =>
        have hall : ['\n', '\r', '\t'].all
            (fun e => (escapeQuoteOrBreak e).all (!isBreak ·)) = true := by decide
        exact List.all_eq_true.mp hall d (isBreak_iff.mp hbreak)
    | false =>
        rw [escapeQuoteOrBreak_of_not_break hbreak, escapeQuote.eq_def]
        split
        · decide
        · decide
        · simp [hbreak]
  simpa using hfree

theorem isBreak_literalChars (cs : List Char) :
    ∀ c ∈ literalChars escapeQuoteOrBreak cs, isBreak c = false := by
  have hquote : isBreak '"' = false := by decide
  intro c hc
  rw [literalChars, List.mem_append, List.mem_cons, List.mem_singleton, List.mem_flatMap] at hc
  rcases hc with (rfl | ⟨d, -, hd⟩) | rfl
  · exact hquote
  · exact isBreak_escapeQuoteOrBreak d c hd
  · exact hquote

/-! ## Replacing twice -/

/-- The text with every occurrence of a character replaced. -/
def replaceChar (old : Char) (new : List Char) (cs : List Char) : List Char :=
  cs.flatMap fun c => if c = old then new else [c]

/-- Escaping character by character is replacing the backslashes of the whole text and then its
quotes. In the other order the backslashes before quotes would be doubled as well. -/
theorem flatMap_escapeQuote_eq_replaceChar (cs : List Char) :
    cs.flatMap escapeQuote = replaceChar '"' ['\\', '"'] (replaceChar '\\' ['\\', '\\'] cs) := by
  rw [replaceChar, replaceChar, List.flatMap_assoc]
  congr 1
  funext c
  by_cases hbackslash : c = '\\'
  · rw [hbackslash]
    rfl
  · rw [if_neg hbackslash, List.flatMap_singleton, escapeQuote.eq_def]
    split
    · rfl
    · exact absurd rfl hbackslash
    · rename_i hquote _
      rw [if_neg fun h => hquote h]

end SchemaCodegen.Text
