import SchemaCodegen.Document.Toml.Statement
import SchemaCodegen.Proofs.Text.Occurrence

/-!
# How TOML texts are spelt

A text of a TOML document stands between quotes of one of four kinds, and a key may
also stand there as a word. Each of the four scanners finds the end of its text, and
leaves the text as it is unless it knows escapes and there is a backslash. So every
token that may be read as a text stands at its place in one of these spellings, and
a value without quotes is never a text.
-/

namespace SchemaCodegen.Document.Toml

open SchemaCodegen.Text

/-! ## Quoted texts -/

/-- What stands between quotes of a kind is the text as it is. Only double quotes know escapes. -/
def AsItIs (quote : Char) (body content : List Char) : Prop :=
  (quote = '"' → '\\' ∉ body) → content = body

/-- A scanner found the end of a text, that is `width` quotes, and what stands before it. -/
def Ends (quote : Char) (width : Nat) (cs content : List Char) (count : Nat) : Prop :=
  ∃ body after, cs = body ++ (List.replicate width quote ++ after) ∧
    count = body.length + width ∧ AsItIs quote body content

/-- The end of a text is also that of one with more characters in front. -/
theorem Ends.cons {quote c : Char} {width taken : Nat} {cs found content : List Char}
    (count : Nat) (hwidth : 0 < width) (h : Ends quote width (cs.drop count) content taken)
    (hfound : AsItIs quote (c :: cs.take count) found) :
    Ends quote width (c :: cs) (found ++ content) (count + 1 + taken) := by
  obtain ⟨body, after, hcs, rfl, hbody⟩ := h
  have hlength := congrArg List.length hcs
  simp only [List.length_drop, List.length_append, List.length_replicate] at hlength
  refine ⟨c :: cs.take count ++ body, after, ?_, ?_, ?_⟩
  · simp [← hcs]
  · simp only [List.length_append, List.length_cons, List.length_take]
    omega
  · intro hplain
    have hfront : quote = '"' → '\\' ∉ c :: cs.take count := fun hquote hmem =>
      hplain hquote (List.mem_append_left _ hmem)
    have hback : quote = '"' → '\\' ∉ body := fun hquote hmem =>
      hplain hquote (List.mem_append_right _ hmem)
    rw [hfound hfront, hbody hback]

theorem Scan.after_eq_some_iff {found content : List Char} {count total : Nat} {rest : Scan} :
    Scan.after found count rest = some (content, total) ↔
      ∃ more taken, rest = some (more, taken) ∧
        content = found ++ more ∧ total = count + taken := by
  rw [Scan.after, Option.map_eq_some_iff]
  constructor
  · rintro ⟨⟨more, taken⟩, hrest, heq⟩
    cases heq
    exact ⟨more, taken, hrest, rfl, rfl⟩
  · rintro ⟨more, taken, hrest, rfl, rfl⟩
    exact ⟨(more, taken), hrest, rfl⟩

variable {quote : Char} {cs content : List Char} {count : Nat}

theorem rawText_ends (h : rawText cs = some (content, count)) : Ends '\'' 1 cs content count := by
  induction cs generalizing content count with
  | nil => cases h
  | cons c cs ih =>
      rw [rawText] at h
      split at h
      · rename_i hquote
        cases h
        exact ⟨[], cs, by rw [hquote]; rfl, rfl, fun _ => rfl⟩
      · split at h
        · obtain ⟨more, taken, hrest, rfl, rfl⟩ := Scan.after_eq_some_iff.mp h
          exact (ih hrest).cons 0 Nat.one_pos fun _ => rfl
        · cases h

theorem escapedText_ends (h : escapedText cs = some (content, count)) :
    Ends '"' 1 cs content count := by
  induction cs using escapedText.induct generalizing content count with
  | case1 => simp [escapedText] at h
  | case2 cs =>
      rw [escapedText, if_pos rfl] at h
      cases h
      exact ⟨[], cs, rfl, rfl, fun _ => rfl⟩
  | case3 cs d count' hescape hquote ih =>
      rw [escapedText, if_neg hquote, if_pos rfl, hescape] at h
      obtain ⟨more, taken, hrest, rfl, rfl⟩ := Scan.after_eq_some_iff.mp h
      exact (ih hrest).cons _ Nat.one_pos fun hplain => absurd List.mem_cons_self (hplain rfl)
  | case4 cs hescape hquote =>
      rw [escapedText, if_neg hquote, if_pos rfl, hescape] at h
      cases h
  | case5 c cs hquote hbackslash hplain ih =>
      rw [escapedText, if_neg hquote, if_neg hbackslash, if_pos hplain] at h
      obtain ⟨more, taken, hrest, rfl, rfl⟩ := Scan.after_eq_some_iff.mp h
      exact (ih hrest).cons 0 Nat.one_pos fun _ => rfl
  | case6 c cs hquote hbackslash hplain =>
      rw [escapedText, if_neg hquote, if_neg hbackslash, if_neg hplain] at h
      cases h

theorem replicate_prefix_of_takeWhile (quote : Char) {n : Nat}
    (h : n ≤ (cs.takeWhile (· == quote)).length) : List.replicate n quote <+: cs := by
  induction n generalizing cs with
  | zero => exact List.nil_prefix
  | succ n ih =>
      cases cs with
      | nil => cases h
      | cons c cs =>
          rw [List.takeWhile_cons] at h
          split at h
          · rename_i hquote
            rw [eq_of_beq hquote]
            exact (List.prefix_cons_inj quote).mpr (ih (Nat.le_of_succ_le_succ h))
          · cases h

theorem longEnd?_ends (h : longEnd? quote cs = some (content, count)) :
    Ends quote 3 cs content count := by
  simp only [longEnd?] at h
  split at h
  · cases h
  · rename_i hlong
    cases h
    obtain ⟨after, hafter⟩ := replicate_prefix_of_takeWhile quote (Nat.min_le_left _ 5)
    refine ⟨_, after, ?_, ?_, fun _ => rfl⟩
    · rw [← List.append_assoc, List.replicate_append_replicate,
        Nat.sub_add_cancel (Nat.le_of_not_lt hlong), hafter]
    · rw [List.length_replicate]
      omega

theorem longChar?_eq {c : Char} {more : Nat} (h : longChar? c cs = some (content, more)) :
    content = c :: cs.take more := by
  unfold longChar? at h
  split at h
  · cases h
    rfl
  · split at h
    · rename_i n hcount
      cases h
      unfold lineEndLength? at hcount
      split at hcount
      · cases hcount
        rfl
      · cases hcount
        rfl
      · cases hcount
    · cases h

theorem longRawText_ends (h : longRawText cs = some (content, count)) :
    Ends '\'' 3 cs content count := by
  induction cs using longRawText.induct generalizing content count with
  | case1 => simp [longRawText] at h
  | case2 c cs found hend =>
      rw [longRawText, hend] at h
      cases h
      exact longEnd?_ends hend
  | case3 c cs found more hchar hend ih =>
      rw [longRawText, hend, hchar] at h
      obtain ⟨content', taken, hrest, rfl, rfl⟩ := Scan.after_eq_some_iff.mp h
      exact (ih hrest).cons _ (Nat.succ_pos 2) fun _ => longChar?_eq hchar
  | case4 c cs hend hchar =>
      rw [longRawText, hend, hchar] at h
      cases h

theorem longEscapedText_ends (h : longEscapedText cs = some (content, count)) :
    Ends '"' 3 cs content count := by
  induction cs using longEscapedText.induct generalizing content count with
  | case1 => simp [longEscapedText] at h
  -- what follows a backslash may stand for anything, but the backslash stays in the body
  | case2 cs gap hgap ih =>
      rw [longEscapedText, if_pos rfl, hgap] at h
      obtain ⟨content', taken, hrest, hcontent, rfl⟩ := Scan.after_eq_some_iff.mp h
      rw [hcontent]
      exact (ih hrest).cons _ (Nat.succ_pos 2) fun hplain => absurd List.mem_cons_self (hplain rfl)
  | case3 cs d count' hgap hescape ih =>
      rw [longEscapedText, if_pos rfl, hgap, hescape] at h
      obtain ⟨content', taken, hrest, rfl, rfl⟩ := Scan.after_eq_some_iff.mp h
      exact (ih hrest).cons _ (Nat.succ_pos 2) fun hplain => absurd List.mem_cons_self (hplain rfl)
  | case4 cs hgap hescape =>
      rw [longEscapedText, if_pos rfl, hgap, hescape] at h
      cases h
  | case5 c cs hbackslash found hend =>
      rw [longEscapedText, if_neg hbackslash, hend] at h
      cases h
      exact longEnd?_ends hend
  | case6 c cs hbackslash found more hchar hend ih =>
      rw [longEscapedText, if_neg hbackslash, hend, hchar] at h
      obtain ⟨content', taken, hrest, rfl, rfl⟩ := Scan.after_eq_some_iff.mp h
      exact (ih hrest).cons _ (Nat.succ_pos 2) fun _ => longChar?_eq hchar
  | case7 c cs hbackslash hend hchar =>
      rw [longEscapedText, if_neg hbackslash, hend, hchar] at h
      cases h

/-! ## Spellings -/

/-- How a text may be written: as a word, if it is a key, between quotes on one line, or between
three quotes on each side. A line end after the first three is no part of the text. -/
inductive Spells : List Char → String → Prop where
  | bare {chars : List Char} (hne : chars ≠ []) (hchars : chars.all isKeyChar = true) :
      Spells chars (String.ofList chars)
  | short {quote : Char} {body : List Char} {s : String} (hquote : quote = '"' ∨ quote = '\'')
      (hbody : AsItIs quote body s.toList) : Spells (quote :: (body ++ [quote])) s
  | long {quote : Char} {gap body : List Char} {s : String} (hquote : quote = '"' ∨ quote = '\'')
      (hgap : gap = [] ∨ gap = ['\n'] ∨ gap = ['\r', '\n']) (hbody : AsItIs quote body s.toList) :
      Spells (List.replicate 3 quote ++ (gap ++ (body ++ List.replicate 3 quote))) s

/-- A text is written in one of these ways at the span. -/
def WrittenAt (source : List Char) (span : Span) (s : String) : Prop :=
  ∃ written, StandsAt written source span.start ∧ span.length = byteCount written ∧
    Spells written s

/-- A lexeme may be read as a text: a quoted text, or as a key a word. -/
inductive Lexeme.Says : Lexeme → String → Prop where
  | text (s : String) (multiLine : Bool) : Says (.text s multiLine) s
  | word {chars : List Char} (h : chars.all isKeyChar = true) :
      Says (.word chars) (String.ofList chars)

theorem lineEndLength?_cases (h : lineEndLength? cs = some count) :
    ∃ after, cs = ['\n'] ++ after ∧ count = 1 ∨ cs = ['\r', '\n'] ++ after ∧ count = 2 := by
  unfold lineEndLength? at h
  split at h
  · cases h
    exact ⟨_, Or.inl ⟨rfl, rfl⟩⟩
  · cases h
    exact ⟨_, Or.inr ⟨rfl, rfl⟩⟩
  · cases h

/-- The line end that a text on several lines starts without. -/
theorem exists_gap (cs : List Char) :
    ∃ gap, (gap = [] ∨ gap = ['\n'] ∨ gap = ['\r', '\n']) ∧
      gap.length = (lineEndLength? cs).getD 0 ∧ cs = gap ++ cs.drop gap.length := by
  cases h : lineEndLength? cs with
  | none => exact ⟨[], Or.inl rfl, rfl, rfl⟩
  | some count =>
      obtain ⟨after, ⟨rfl, rfl⟩ | ⟨rfl, rfl⟩⟩ := lineEndLength?_cases h
      · exact ⟨_, Or.inr (Or.inl rfl), rfl, rfl⟩
      · exact ⟨_, Or.inr (Or.inr rfl), rfl, rfl⟩

/-- A text on several lines is spelt by what is read for it with its quotes. -/
theorem longText_spells {scan : List Char → Scan} {found : Lexeme} {s : String}
    (hquote : quote = '"' ∨ quote = '\'')
    (hscan : ∀ {cs content count}, scan cs = some (content, count) → Ends quote 3 cs content count)
    (hs : found.Says s) (h : longText scan cs = some (found, count)) :
    Spells (quote :: (quote :: quote :: cs).take count) s := by
  obtain ⟨⟨content, taken⟩, hfound, heq⟩ := Option.map_eq_some_iff.mp h
  cases heq
  cases hs
  obtain ⟨gap, hgap, hlength, hcs⟩ := exists_gap cs
  obtain ⟨body, after, hbody, rfl, hcontent⟩ := hscan hfound
  rw [← hlength] at hbody ⊢
  have hwritten : quote :: quote :: cs =
      (quote :: quote :: (gap ++ (body ++ List.replicate 3 quote))) ++ after := by
    rw [hcs, hbody]
    simp only [List.cons_append, List.append_assoc]
  have htake : (quote :: quote :: cs).take (gap.length + (body.length + 3) + 2) =
      quote :: quote :: (gap ++ (body ++ List.replicate 3 quote)) := by
    rw [hwritten]
    apply List.take_left'
    simp
  rw [htake]
  exact .long hquote hgap (by rwa [String.toList_ofList])

/-- A text on one line is spelt by what is read for it with its quotes. -/
theorem spells_of_ends (hquote : quote = '"' ∨ quote = '\'') (h : Ends quote 1 cs content count) :
    Spells (quote :: cs.take count) (String.ofList content) := by
  obtain ⟨body, after, rfl, rfl, hbody⟩ := h
  have hlength : (body ++ [quote]).length = body.length + 1 := List.length_append
  rw [List.replicate_one, ← List.append_assoc, List.take_left' hlength]
  exact .short hquote (by rwa [String.toList_ofList])

/-- A text between quotes is spelt by what is read for it with its quotes. -/
theorem quotedText_spells {short long : List Char → Scan} {found : Lexeme} {s : String}
    (hquote : quote = '"' ∨ quote = '\'')
    (hshort : ∀ {cs content count}, short cs = some (content, count) →
      Ends quote 1 cs content count)
    (hlong : ∀ {cs content count}, long cs = some (content, count) → Ends quote 3 cs content count)
    (hs : found.Says s) (h : quotedText quote short long cs = some (found, count)) :
    Spells (quote :: cs.take count) s := by
  unfold quotedText at h
  split at h
  · split at h
    · rename_i hquotes
      obtain ⟨rfl, rfl⟩ := hquotes
      exact longText_spells hquote hlong hs h
    · obtain ⟨⟨content, taken⟩, hfound, heq⟩ := Option.map_eq_some_iff.mp h
      cases heq
      cases hs
      exact spells_of_ends hquote (hshort hfound)
  · obtain ⟨⟨content, taken⟩, hfound, heq⟩ := Option.map_eq_some_iff.mp h
    cases heq
    cases hs
    exact spells_of_ends hquote (hshort hfound)

/-- A lexeme is written as the text that it may be read as. -/
theorem Lexeme.Says.spelt {c : Char} {found : Lexeme} {s : String} (hs : found.Says s)
    (h : lexeme c cs = some (some found, count)) : Spells (c :: cs.take count) s := by
  unfold lexeme at h
  split at h
  · cases h
  split at h
  · cases h
    cases hs
  split at h
  · obtain ⟨_, -, heq⟩ := Option.map_eq_some_iff.mp h
    cases heq
  split at h
  · rename_i hquote
    obtain ⟨_, htext, heq⟩ := Option.map_eq_some_iff.mp h
    cases heq
    subst hquote
    exact quotedText_spells (Or.inl rfl) escapedText_ends longEscapedText_ends hs htext
  split at h
  · rename_i hquote
    obtain ⟨_, htext, heq⟩ := Option.map_eq_some_iff.mp h
    cases heq
    subst hquote
    exact quotedText_spells (Or.inr rfl) rawText_ends longRawText_ends hs htext
  split at h
  · cases h
    cases hs
  · simp only [] at h
    split at h
    · cases h
    · rename_i hcount
      cases h
      obtain ⟨n, hn⟩ := Nat.exists_eq_succ_of_ne_zero hcount
      rw [hn, List.take_succ_cons] at hs
      rw [hn]
      cases hs with
      | word hchars => exact .bare (List.cons_ne_nil _ _) hchars

/-! ## Words -/

theorem integer_ne_text (i : Int) (s : String) : integer i ≠ .text s := by
  unfold integer
  split
  · simp
  · split
    · simp
    · simp

theorem literal_ne_text (negative : Bool) (l : Number.Literal) (s : String) :
    literal negative l ≠ .text s := by
  unfold literal
  split
  · exact integer_ne_text _ s
  · split
    · simp
    · simp

theorem basedInteger?_ne_text (base : Nat) (cs : List Char) (s : String) :
    basedInteger? base cs ≠ some (.text s) := by
  intro h
  unfold basedInteger? at h
  split at h
  · cases h
  · cases h
  · obtain ⟨n, -, hn⟩ := Option.map_eq_some_iff.mp h
    exact integer_ne_text _ s hn

theorem decimalNumber?_ne_text (negative : Bool) (cs : List Char) (s : String) :
    decimalNumber? negative cs ≠ some (.text s) := by
  intro h
  unfold decimalNumber? at h
  split at h
  · split at h
    · cases h
    · exact literal_ne_text _ _ s (Option.some.inj h)
  · split at h
    · cases h
    · cases h

theorem groupedNumber?_ne_text (negative : Bool) (cs : List Char) (s : String) :
    groupedNumber? negative cs ≠ some (.text s) := by
  intro h
  unfold groupedNumber? at h
  split at h
  · exact literal_ne_text _ _ s (Option.some.inj h)
  · split at h
    · cases h
    · cases h

theorem unsigned?_ne_text (negative : Bool) (cs : List Char) (s : String) :
    unsigned? negative cs ≠ some (.text s) := by
  intro h
  unfold unsigned? at h
  split at h
  · cases h
  · split at h
    · cases h
    · exact decimalNumber?_ne_text negative cs s h

theorem signed?_ne_text (negative : Bool) (cs : List Char) (s : String) :
    signed? negative cs ≠ some (.text s) := by
  intro h
  unfold signed? at h
  split at h
  · exact groupedNumber?_ne_text negative _ s h
  · exact unsigned?_ne_text negative _ s h

/-- A value without quotes is no text. -/
theorem scalarOf?_ne_text (word : List Char) (s : String) : scalarOf? word ≠ some (.text s) := by
  intro h
  unfold scalarOf? at h
  split at h
  · exact signed?_ne_text _ _ s h
  · exact signed?_ne_text _ _ s h
  · exact basedInteger?_ne_text _ _ s h
  · exact basedInteger?_ne_text _ _ s h
  · exact basedInteger?_ne_text _ _ s h
  · split at h
    · cases h
    · split at h
      · cases h
      · rw [Option.orElse_eq_orElse, Option.orElse_eq_or, Option.or_eq_some_iff] at h
        rcases h with h | ⟨-, h⟩
        · exact unsigned?_ne_text _ _ s h
        · obtain ⟨m, -, hm⟩ := Option.map_eq_some_iff.mp h
          cases hm

/-! ## Tokens -/

/-- The token of a text stands where its span says. -/
theorem token_stands {place : Nat} {ts : List Token} {t : Token} {s : String}
    (h : tokens place cs = some ts) (ht : t ∈ ts) (hs : t.lexeme.Says s) :
    ∃ start written, StandsAt written cs start ∧
      t.span = ⟨place + start, byteCount written⟩ ∧ Spells written s := by
  induction place, cs using tokens.induct generalizing ts with
  | case1 place =>
      rw [tokens] at h
      cases h
      cases ht
  | case2 place c cs hlexeme =>
      rw [tokens, hlexeme] at h
      cases h
  | case3 place c cs count width hlexeme =>
      rename_i ih
      rw [tokens, hlexeme] at h
      obtain ⟨start, written, hstands, hspan, hspells⟩ := ih h ht
      have hstands := hstands.behind (c :: cs.take count)
      rw [List.cons_append, List.take_append_drop] at hstands
      refine ⟨_, written, hstands, ?_, hspells⟩
      rw [hspan, Nat.add_assoc]
  | case4 place c cs count width found hlexeme =>
      rename_i ih
      rw [tokens, hlexeme] at h
      obtain ⟨rest, hrest, rfl⟩ := Option.map_eq_some_iff.mp h
      rcases List.mem_cons.mp ht with rfl | hlater
      · refine ⟨0, c :: cs.take count, ⟨[], cs.drop count, ?_, rfl⟩, rfl, hs.spelt hlexeme⟩
        simp
      · obtain ⟨start, written, hstands, hspan, hspells⟩ := ih hrest hlater
        have hstands := hstands.behind (c :: cs.take count)
        rw [List.cons_append, List.take_append_drop] at hstands
        refine ⟨_, written, hstands, ?_, hspells⟩
        rw [hspan, Nat.add_assoc]

/-- The token of a text stands in the document where its span says. -/
theorem writtenAt_of_sourceTokens {source : String} {ts : List Token} {t : Token} {s : String}
    (h : sourceTokens source = some ts) (ht : t ∈ ts) (hs : t.lexeme.Says s) :
    WrittenAt source.toList t.span s := by
  unfold sourceTokens at h
  split at h
  · rename_i c cs hsource
    rw [hsource]
    split at h
    · obtain ⟨start, written, hstands, hspan, hspells⟩ := token_stands h ht hs
      rw [hspan]
      exact ⟨written, hstands.behind [c], rfl, hspells⟩
    · obtain ⟨start, written, hstands, hspan, hspells⟩ := token_stands h ht hs
      rw [hspan, Nat.zero_add]
      exact ⟨written, hstands, rfl, hspells⟩
  · cases h
    cases ht

end SchemaCodegen.Document.Toml
