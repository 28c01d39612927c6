import SchemaCodegen.Proofs.Naming.Conversion
import SchemaCodegen.Proofs.Text.IdentifierCharacters
import SchemaCodegen.Proofs.Text.Literals

/-!
# Legal member names

A member of a TypeScript declaration is named by an identifier, as the language
has it, or by a string literal on one line. A property is written bare if its
characters are letters and numerals, and quoted otherwise. So a bare name is an
identifier unless one of its characters is a stray numeral or letter, or the
first is a mark; and a quoted name is always a literal of the name, but is on
one line only if the name is. Within ASCII only line breaks are left.
-/

namespace SchemaCodegen.Naming

open Text

variable {cs name : List Char}

/-! ## What is legal -/

/-- Whether a text is an identifier of the language. -/
def IsIdentifierName (cs : List Char) : Prop :=
  ∃ c rest, cs = c :: rest ∧ (identifierStart.contains c = true ∨ c = '$' ∨ c = '_') ∧
    ∀ d ∈ rest, identifierPart.contains d = true ∨ d = '$'

/-- Whether a member may be written as `shown` for `name`: as the name itself, if that is an
identifier, or as a literal on one line that denotes it. -/
inductive IsMemberName (shown name : List Char) : Prop where
  | bare (hname : shown = name) (hidentifier : IsIdentifierName name)
  | quoted (hdenotes : Denotes unescapeQuote shown name) (hfeed : '\n' ∉ shown)
      (hreturn : '\r' ∉ shown)

/-- Whether the characters of a name let it be written as a member. Written bare, it needs
characters of identifiers; quoted, it needs to be on one line. -/
def hasLegalCharacters (name : List Char) : Bool :=
  if isIdentifier name then
    name.all (!strays.contains ·) && name.head?.all (!identifierMark.contains ·)
  else !name.contains '\n' && !name.contains '\r'

/-! ## Bare names -/

/-- Dollar signs and underscores are no letters, no numerals and no marks, but for the underscore,
which is a mark. Nothing starts with a quote. -/
theorem identifier_signs :
    strays.contains '$' = false ∧ strays.contains '_' = false ∧
    identifierMark.contains '$' = false ∧ identifierPart.contains '_' = true ∧
    identifierStart.contains '"' = false ∧ startsIdentifier '"' = false := by
  decide +kernel

theorem identifierPart_iff {c : Char} (h : continuesIdentifier c = true) :
    (identifierPart.contains c = true ∨ c = '$') ↔ strays.contains c = false := by
  obtain ⟨hdollar, hunderscore, -, hpart, -⟩ := identifier_signs
  simp only [continuesIdentifier, Bool.or_eq_true, beq_iff_eq] at h
  rcases h with (hletter | rfl) | rfl
  · have hcontains := identifierPart_contains_eq hletter
    have hne : strays.contains c = true → c ≠ '$' := by
      rintro hstray rfl
      rw [hdollar] at hstray
      cases hstray
    cases hstray : strays.contains c with
    | true => simp [hcontains, hstray, hne hstray]
    | false => simp [hcontains, hstray]
  · simp [hunderscore, hpart]
  · simp [hdollar]

theorem identifierStart_iff {c : Char} (h : startsIdentifier c = true) (hne : c ≠ '_') :
    (identifierStart.contains c = true ∨ c = '$' ∨ c = '_') ↔
      strays.contains c = false ∧ identifierMark.contains c = false := by
  obtain ⟨hdollar, -, hmark, -⟩ := identifier_signs
  simp only [startsIdentifier, Bool.or_eq_true, beq_iff_eq] at h
  rcases h with (hletter | rfl) | rfl
  · have hcontains := identifierStart_contains_eq hletter
    by_cases hsign : c = '$'
    · rw [hsign, hdollar, hmark]
      simp
    · simp [hcontains, hsign, hne]
  · exact absurd rfl hne
  · simp [hdollar, hmark]

/-- A text of letters and numerals is an identifier if none of them is a stray one and the first
is no mark. -/
theorem isIdentifierName_iff (h : isIdentifier cs = true) (hfree : '_' ∉ cs) :
    IsIdentifierName cs ↔
      (cs.all (!strays.contains ·) && cs.head?.all (!identifierMark.contains ·)) = true := by
  cases cs with
  | nil => cases h
  | cons c rest =>
      rw [isIdentifier, Bool.and_eq_true, List.all_eq_true] at h
      have hne : c ≠ '_' := fun heq => hfree (heq ▸ List.mem_cons_self)
      have hfirst := identifierStart_iff h.1 hne
      have hrest : (∀ d ∈ rest, identifierPart.contains d = true ∨ d = '$') ↔
          ∀ d ∈ rest, strays.contains d = false :=
        forall₂_congr fun d hd => identifierPart_iff (h.2 d hd)
      have hsplit : IsIdentifierName (c :: rest) ↔
          (identifierStart.contains c = true ∨ c = '$' ∨ c = '_') ∧
            ∀ d ∈ rest, identifierPart.contains d = true ∨ d = '$' := by
        constructor
        · rintro ⟨first, others, heq, hstart, hothers⟩
          obtain ⟨rfl, rfl⟩ := List.cons.inj heq
          exact ⟨hstart, hothers⟩
        · rintro ⟨hstart, hothers⟩
          exact ⟨c, rest, rfl, hstart, hothers⟩
      rw [hsplit, hfirst, hrest]
      simp only [List.head?_cons, Option.all_some, List.all_cons, Bool.and_eq_true,
        List.all_eq_true, Bool.not_eq_true']
      tauto

/-! ## Both forms -/

theorem toList_typescriptProperty_bare {column : String}
    (h : isIdentifier (camel column).toList = true) :
    (typescriptProperty column).toList = (camel column).toList := by
  simp only [typescriptProperty, if_pos h]

theorem toList_typescriptProperty_quoted {column : String}
    (h : isIdentifier (camel column).toList = false) :
    (typescriptProperty column).toList = (literal escapeQuote (camel column)).toList := by
  simp only [typescriptProperty, h, Bool.false_eq_true, if_false]

theorem underscore_not_mem_camel (column : String) : '_' ∉ (camel column).toList := by
  rw [camel, String.toList_ofList]
  exact not_mem_camelChars column.toList

/-- **A member name is legal exactly if its characters are.** -/
theorem isMemberName_iff (column : String) :
    IsMemberName (typescriptProperty column).toList (camel column).toList ↔
      hasLegalCharacters (camel column).toList = true := by
  obtain ⟨-, -, -, -, hquote, hquoted⟩ := identifier_signs
  rw [hasLegalCharacters]
  cases hform : isIdentifier (camel column).toList with
  | true =>
      rw [toList_typescriptProperty_bare hform, if_pos rfl,
        ← isIdentifierName_iff hform (underscore_not_mem_camel column)]
      refine ⟨?_, fun h => .bare rfl h⟩
      rintro (⟨-, hidentifier⟩ | ⟨⟨⟨body, hbody, -⟩, -⟩, -, -⟩)
      · exact hidentifier
      · -- a text that starts with a quote does not start as an identifier
        rw [hbody, List.cons_append, isIdentifier, Bool.and_eq_true] at hform
        exact absurd hform.1 (Bool.eq_false_iff.mp hquoted)
  | false =>
      have hlines : (!(camel column).toList.contains '\n' && !(camel column).toList.contains '\r') =
          true ↔ '\n' ∉ (literal escapeQuote (camel column)).toList ∧
            '\r' ∉ (literal escapeQuote (camel column)).toList := by
        rw [mem_literal_iff (by decide), mem_literal_iff (by decide)]
        simp
      rw [toList_typescriptProperty_quoted hform, if_neg Bool.false_ne_true, hlines]
      refine ⟨?_, fun h => .quoted (denotes_literal unescapeQuote_undoes _) h.1 h.2⟩
      rintro (⟨hname, first, rest, hcons, hstart, -⟩ | ⟨-, hfeed, hreturn⟩)
      · -- a literal starts with a quote, an identifier does not
        rw [← hname, toList_literal] at hcons
        rw [← (List.cons.inj hcons).1] at hstart
        rw [hquote] at hstart
        exact absurd hstart (by decide)
      · exact ⟨hfeed, hreturn⟩

/-! ## Names in ASCII -/

/-- Within ASCII there are no stray letters and numerals, and no letter is a mark. -/
theorem identifier_ascii {c : Char} (hc : c.toNat < 128) :
    strays.contains c = false ∧ (isAlphabetic c = true → identifierMark.contains c = false) := by
  obtain ⟨-, -, -, hstrays, hmarks⟩ := identifier_tables
  refine ⟨?_, fun hletter => ?_⟩
  · rw [Bool.eq_false_iff]
    intro hstray
    have hbeyond : RunSet.contains [asciiRun] c = false := hstrays.contains_eq_false hstray
    rw [RunSet.contains, List.any_cons, mem_asciiRun hc, Bool.true_or] at hbeyond
    cases hbeyond
  · rw [Bool.eq_false_iff]
    intro hmark
    have hall := Nat.testBit_and (alphabetic.mask &&& identifierMark.mask) asciiRun.mask c.toNat
    rw [hmarks, Nat.testBit_and, RunSet.testBit_mask_of_contains hletter,
      RunSet.testBit_mask_of_contains hmark, Run.testBit_mask_of_mem (mem_asciiRun hc),
      Nat.zero_testBit] at hall
    cases hall

theorem hasLegalCharacters_of_ascii (h : IsAscii name) (hfree : '_' ∉ name)
    (hfeed : '\n' ∉ name) (hreturn : '\r' ∉ name) : hasLegalCharacters name = true := by
  rw [hasLegalCharacters]
  split
  · rename_i hform
    cases name with
    | nil => cases hform
    | cons c rest =>
        simp only [isIdentifier, Bool.and_eq_true, startsIdentifier, Bool.or_eq_true,
          beq_iff_eq] at hform
        have hfirst : identifierMark.contains c = false := by
          rcases hform.1 with (hletter | rfl) | rfl
          · exact (identifier_ascii (h c List.mem_cons_self)).2 hletter
          · exact absurd List.mem_cons_self hfree
          · exact identifier_signs.2.2.1
        rw [Bool.and_eq_true, List.all_eq_true, List.head?_cons, Option.all_some, hfirst]
        refine ⟨?_, rfl⟩
        intro d hd
        rw [(identifier_ascii (h d hd)).1]
        rfl
  · simp [hfeed, hreturn]

/-- **When a member name is legal.** A bare name is the name itself, and a quoted one a literal
that denotes it from its first quote to its last. Such a name is legal exactly if, written bare,
it has no stray numeral or letter and starts with no mark, and, quoted, it has no line break. So
a name in ASCII and without line breaks is always legal. -/
theorem member_name_legal_iff (column : String) :
    let name := (camel column).toList
    let shown := (typescriptProperty column).toList
    (if isIdentifier name then shown = name else Denotes unescapeQuote shown name) ∧
    (IsMemberName shown name ↔ hasLegalCharacters name = true) ∧
    (IsAscii name → '\n' ∉ name → '\r' ∉ name → IsMemberName shown name) := by
  intro name shown
  refine ⟨?_, isMemberName_iff column, ?_⟩
  · split
    · rename_i hform
      exact toList_typescriptProperty_bare hform
    · rename_i hform
      show Denotes unescapeQuote (typescriptProperty column).toList (camel column).toList
      rw [toList_typescriptProperty_quoted (Bool.eq_false_iff.mpr hform)]
      exact denotes_literal unescapeQuote_undoes (camel column)
  · intro hascii hfeed hreturn
    apply (isMemberName_iff column).mpr
    exact hasLegalCharacters_of_ascii hascii (underscore_not_mem_camel column) hfeed hreturn

/-- Quotes and backslashes in a name that starts with a digit. -/
theorem digit_first_legal :
    let name := "2fa\"Code\\".toList
    (camel "2fa\"_code\\").toList = name ∧ IsAscii name ∧ '\n' ∉ name ∧ '\r' ∉ name ∧
      IsMemberName "\"2fa\\\"Code\\\\\"".toList name := by
  intro name
  have hname : (camel "2fa\"_code\\").toList = name := by decide +kernel
  have hshown : (typescriptProperty "2fa\"_code\\").toList = "\"2fa\\\"Code\\\\\"".toList := by
    decide +kernel
  have hall : name.all (fun c => decide (c.toNat < 128)) = true := by decide
  have hascii : IsAscii name := fun c hc => of_decide_eq_true (List.all_eq_true.mp hall c hc)
  have hfeed : '\n' ∉ name := by decide
  have hreturn : '\r' ∉ name := by decide
  obtain ⟨-, -, hlegal⟩ := member_name_legal_iff "2fa\"_code\\"
  rw [hname, hshown] at hlegal
  exact ⟨hname, hascii, hfeed, hreturn, hlegal hascii hfeed hreturn⟩

/-- A superscript is written bare although no identifier has one, and a line feed is written as
itself between the quotes. -/
theorem superscript_and_line_feed_illegal :
    typescriptProperty "a²" = "a²" ∧ typescriptProperty "a\nb" = "\"a\nb\"" ∧
      ¬IsMemberName (typescriptProperty "a²").toList (camel "a²").toList ∧
      ¬IsMemberName (typescriptProperty "a\nb").toList (camel "a\nb").toList := by
  have hsuperscript : hasLegalCharacters (camel "a²").toList = false := by decide +kernel
  have hfeed : hasLegalCharacters (camel "a\nb").toList = false := by decide +kernel
  refine ⟨by decide +kernel, by decide +kernel, ?_, ?_⟩
  · rw [isMemberName_iff, hsuperscript]
    exact Bool.false_ne_true
  · rw [isMemberName_iff, hfeed]
    exact Bool.false_ne_true

end SchemaCodegen.Naming
