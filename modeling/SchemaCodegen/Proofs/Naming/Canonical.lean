import Mathlib.Data.List.Nodup
import SchemaCodegen.Column.Basic
import SchemaCodegen.Naming.Member
import SchemaCodegen.Proofs.Naming.Conversion

/-!
# Canonical names

A canonical name is a row of words joined by single underscores; a word starts
with a small ASCII letter, and small ASCII letters and digits follow. Conversion
drops the underscores and puts a capital behind each, and no other capital comes
in. So an underscore before every capital reads the name back. The marks that
languages put on a name are neither letters nor digits and do not come in the
way: members and types of distinct canonical names never clash.
-/

namespace SchemaCodegen.Naming

open Text

/-- A small ASCII letter, and small ASCII letters and digits behind it. -/
def isWord : List Char → Bool
  | [] => false
  | c :: cs => c.isLower && cs.all fun d => d.isLower || d.isDigit

/-- Words joined by single underscores, one at least. -/
def IsCanonical (name : String) : Prop :=
  ∃ words : List (List Char), words ≠ [] ∧ (∀ word ∈ words, isWord word = true) ∧
    name.toList = ['_'].intercalate words

/-! ## Words -/

/-- What the characters of words have in common. -/
structure IsSmall (c : Char) : Prop where
  ascii : c.toNat < 128
  alphanum : c.isAlphanum = true
  no_capital : c.isUpper = false
  toLower_eq : c.toLower = c

theorem isAlphanum_eq (c : Char) : c.isAlphanum = (c.isUpper || c.isLower || c.isDigit) := rfl

theorem isDigit_iff_codes (c : Char) : c.isDigit = true ↔ 0x0030 ≤ c.toNat ∧ c.toNat ≤ 0x0039 := by
  change (decide (c.val ≥ 48) && decide (c.val ≤ 57)) = true ↔ _
  rw [Bool.and_eq_true, decide_eq_true_eq, decide_eq_true_eq]
  exact Iff.rfl

theorem isSmall_of {c : Char} (h : c.isLower = true ∨ c.isDigit = true) : IsSmall c := by
  have hcodes := h
  rw [isLower_iff_codes, isDigit_iff_codes] at hcodes
  have hascii : c.toNat < 128 := by omega
  have hcapital : c.isUpper = false := by
    rw [← Bool.not_eq_true, isUpper_iff_codes]
    omega
  refine ⟨hascii, ?_, hcapital, (asciiForms hascii).toLower_eq_self hcapital⟩
  rw [isAlphanum_eq, hcapital, Bool.false_or, Bool.or_eq_true]
  exact h

theorem isSmall_of_mem_isWord {word : List Char} (h : isWord word = true) :
    ∀ c ∈ word, IsSmall c := by
  cases word with
  | nil => cases h
  | cons c cs =>
      rw [isWord, Bool.and_eq_true, List.all_eq_true] at h
      obtain ⟨hfirst, hrest⟩ := h
      intro d hd
      rcases List.mem_cons.mp hd with rfl | hd
      · exact isSmall_of (.inl hfirst)
      · exact isSmall_of (Bool.or_eq_true_iff.mp (hrest d hd))

section Word

variable {word : List Char} (h : isWord word = true)
include h

theorem isAscii_of_isWord : IsAscii word :=
  fun c hc => (isSmall_of_mem_isWord h c hc).ascii

theorem underscore_not_mem_isWord : '_' ∉ word := by
  intro hmem
  have halphanum := (isSmall_of_mem_isWord h '_' hmem).alphanum
  exact absurd halphanum (by decide)

/-- A word is in lower case. -/
theorem normalizePart_of_isWord : normalizePart word = word := by
  have hfree : mixesCases word = false :=
    mixesCases_eq_false_of_capital_free (isAscii_of_isWord h) fun c hc =>
      (isSmall_of_mem_isWord h c hc).no_capital
  rw [normalizePart, hfree, lowerChars_of_ascii (isAscii_of_isWord h)]
  exact (List.map_congr_left fun c hc => (isSmall_of_mem_isWord h c hc).toLower_eq).trans
    (List.map_id word)

/-- So its first letter stays as it is in front of a camel-case name. -/
theorem smallPart_of_isWord : smallPart word = word := by
  have hsmall := isSmall_of_mem_isWord h
  rw [smallPart, normalizePart_of_isWord h]
  cases word with
  | nil => rfl
  | cons c cs =>
      have hc := hsmall c List.mem_cons_self
      rw [lowerFirst, lowerChar_eq_toLower hc.ascii, hc.toLower_eq]
      rfl

end Word

/-! ## Reading a form back -/

/-- An underscore before every capital, which becomes small. -/
def spreadWords (cs : List Char) : List Char :=
  cs.flatMap fun c => if c.isUpper then ['_', c.toLower] else [c]

@[simp] theorem spreadWords_append (cs ds : List Char) :
    spreadWords (cs ++ ds) = spreadWords cs ++ spreadWords ds :=
  List.flatMap_append

theorem spreadWords_of_small {cs : List Char} (h : ∀ c ∈ cs, IsSmall c) : spreadWords cs = cs := by
  induction cs with
  | nil => rfl
  | cons c cs ih =>
      obtain ⟨hc, hcs⟩ := List.forall_mem_cons.mp h
      have hrest : spreadWords cs = cs := ih hcs
      rw [spreadWords] at hrest ⊢
      rw [List.flatMap_cons, hc.no_capital, hrest]
      rfl

/-- A word with a capital in front is read as the word behind an underscore, and it consists of
letters and digits. -/
theorem capitalPart_of_isWord {word : List Char} (h : isWord word = true) :
    spreadWords (capitalPart word) = '_' :: word ∧
      ∀ c ∈ capitalPart word, c.isAlphanum = true := by
  have hsmall := isSmall_of_mem_isWord h
  rw [capitalPart, normalizePart_of_isWord h]
  cases word with
  | nil => cases h
  | cons c cs =>
      obtain ⟨hc, hcs⟩ := List.forall_mem_cons.mp hsmall
      rw [isWord, Bool.and_eq_true] at h
      have hcapital := (asciiForms hc.ascii).isUpper_of_isLower h.1
      rw [upperFirst, upperChar_eq_toUpper hc.ascii, List.singleton_append]
      constructor
      · have hrest := spreadWords_of_small hcs
        rw [spreadWords] at hrest ⊢
        rw [List.flatMap_cons, if_pos hcapital, (asciiForms hc.ascii).toLower_toUpper,
          hc.toLower_eq, hrest]
        rfl
      · intro d hd
        rcases List.mem_cons.mp hd with rfl | hd
        · rw [isAlphanum_eq, hcapital]
          rfl
        · exact (hcs d hd).alphanum

section Words

variable {words : List (List Char)} (h : ∀ word ∈ words, isWord word = true)
include h

/-- The parts of a canonical name are its words. -/
theorem parts_intercalate (hwords : words ≠ []) : parts (['_'].intercalate words) = words := by
  have hfree : ∀ word ∈ words, '_' ∉ word := fun word hword =>
    underscore_not_mem_isWord (h word hword)
  rw [parts, segments_eq_splitOnP, ← List.splitOn_eq_splitOnP,
    List.splitOn_intercalate _ hfree hwords]
  apply List.filter_eq_self.mpr
  intro word hword
  cases word with
  | nil => exact absurd (h [] hword) (by decide)
  | cons c cs => rfl

theorem spreadWords_flatMap_capitalPart :
    spreadWords (words.flatMap capitalPart) = words.flatMap ('_' :: ·) := by
  induction words with
  | nil => rfl
  | cons word words ih =>
      obtain ⟨hword, hwords⟩ := List.forall_mem_cons.mp h
      simp [(capitalPart_of_isWord hword).1, ih hwords]

theorem alphanum_of_mem_flatMap_capitalPart :
    ∀ c ∈ words.flatMap capitalPart, c.isAlphanum = true := by
  intro c hc
  obtain ⟨word, hword, hc⟩ := List.mem_flatMap.mp hc
  exact (capitalPart_of_isWord (h word hword)).2 c hc

end Words

/-- The letters and digits of a text with an underscore before every capital. -/
def readBack (s : String) : List Char := spreadWords (s.toList.filter Char.isAlphanum)

theorem readBack_of_alphanum {cs : List Char} (h : ∀ c ∈ cs, c.isAlphanum = true) :
    readBack (String.ofList cs) = spreadWords cs := by
  rw [readBack, String.toList_ofList, List.filter_eq_self.mpr h]

variable {a b : String}

theorem readBack_pascal (h : IsCanonical a) : readBack (pascal a) = '_' :: a.toList := by
  obtain ⟨words, hwords, hall, heq⟩ := h
  rw [pascal, pascalChars, heq, parts_intercalate hall hwords,
    readBack_of_alphanum (alphanum_of_mem_flatMap_capitalPart hall),
    spreadWords_flatMap_capitalPart hall]
  cases words with
  | nil => exact absurd rfl hwords
  | cons word words =>
      simp [intercalate_cons_eq_flatMap]

theorem readBack_camel (h : IsCanonical a) : readBack (camel a) = a.toList := by
  obtain ⟨words, hwords, hall, heq⟩ := h
  rw [camel, camelChars, heq, parts_intercalate hall hwords]
  cases words with
  | nil => exact absurd rfl hwords
  | cons word words =>
      obtain ⟨hword, hrest⟩ := List.forall_mem_cons.mp hall
      have hsmall := isSmall_of_mem_isWord hword
      have hplain : ∀ c ∈ word ++ words.flatMap capitalPart, c.isAlphanum = true := by
        intro c hc
        rcases List.mem_append.mp hc with hc | hc
        · exact (hsmall c hc).alphanum
        · exact alphanum_of_mem_flatMap_capitalPart hrest c hc
      simp only [smallPart_of_isWord hword]
      rw [readBack_of_alphanum hplain, spreadWords_append, spreadWords_of_small hsmall,
        spreadWords_flatMap_capitalPart hrest, intercalate_cons_eq_flatMap]

/-! ## Members and types -/

/-- An underscore behind a name does not come in the way. -/
theorem readBack_javaField (column : String) :
    readBack (javaField column) = readBack (camel column) := by
  simp only [javaField]
  split
  · have hmark : "_".toList.filter Char.isAlphanum = [] := by decide
    rw [readBack, String.toList_append, List.filter_append, hmark, List.append_nil]
    rfl
  · rfl

/-- An `@` before a name does not come in the way. -/
theorem readBack_csharpProperty (column : String) :
    readBack (csharpProperty column true) = readBack (camel column) := by
  simp only [csharpProperty, if_true]
  split
  · have hmark : "@".toList.filter Char.isAlphanum = [] := by decide
    rw [readBack, String.toList_append, List.filter_append, hmark, List.nil_append]
    rfl
  · rfl

theorem filter_flatMap_escapeQuote (cs : List Char) :
    (cs.flatMap escapeQuote).filter Char.isAlphanum = cs.filter Char.isAlphanum := by
  induction cs with
  | nil => rfl
  | cons c cs ih =>
      have hone : (escapeQuote c).filter Char.isAlphanum = [c].filter Char.isAlphanum := by
        unfold escapeQuote
        split
        · decide
        · decide
        · rfl
      rw [List.flatMap_cons, List.filter_append, ih, hone, ← List.filter_append,
        List.singleton_append]

/-- Quotes around a name do not come in the way. -/
theorem readBack_typescriptProperty (column : String) :
    readBack (typescriptProperty column) = readBack (camel column) := by
  simp only [typescriptProperty]
  split
  · rfl
  · have hquote : Char.isAlphanum '"' = false := by decide
    rw [readBack, literal, String.toList_ofList, literalChars, List.cons_append,
      List.filter_cons_of_neg (by rw [hquote]; decide), List.filter_append,
      filter_flatMap_escapeQuote, List.filter_singleton, hquote]
    exact congrArg spreadWords (List.append_nil _)

theorem eq_of_pascal_eq (ha : IsCanonical a) (hb : IsCanonical b) (h : pascal a = pascal b) :
    a = b := by
  have hread := congrArg readBack h
  rw [readBack_pascal ha, readBack_pascal hb, List.cons_inj_right] at hread
  exact String.toList_inj.mp hread

/-- A member that is read back as the name in camel case tells canonical names apart. -/
theorem eq_of_member_eq {member : String → String}
    (hmember : ∀ column, readBack (member column) = readBack (camel column))
    (ha : IsCanonical a) (hb : IsCanonical b) (h : member a = member b) : a = b := by
  have hread := congrArg readBack h
  rw [hmember, hmember, readBack_camel ha, readBack_camel hb] at hread
  exact String.toList_inj.mp hread

theorem nodup_members {member : String → String} {columns : List Column}
    (hinjective : ∀ a b, IsCanonical a → IsCanonical b → member a = member b → a = b)
    (hcanonical : ∀ c ∈ columns, IsCanonical c.name)
    (hdistinct : (columns.map (·.name)).Nodup) :
    (columns.map fun c => member c.name).Nodup := by
  have hnames : (columns.map fun c => member c.name) = (columns.map (·.name)).map member := by
    rw [List.map_map]
    rfl
  rw [hnames]
  refine hdistinct.map_on ?_
  intro x hx y hy hxy
  obtain ⟨c, hc, rfl⟩ := List.mem_map.mp hx
  obtain ⟨d, hd, rfl⟩ := List.mem_map.mp hy
  exact hinjective c.name d.name (hcanonical c hc) (hcanonical d hd) hxy

/-- **Canonical names never clash.** Either case tells them apart, so the members of columns with
distinct canonical names are distinct in every language, and so are the type names of tables. -/
theorem canonical_names_never_clash :
    (∀ a b, IsCanonical a → IsCanonical b → camel a = camel b ∨ pascal a = pascal b → a = b) ∧
    (∀ columns : List Column, (∀ c ∈ columns, IsCanonical c.name) →
      (columns.map (·.name)).Nodup →
      (columns.map fun c => javaField c.name).Nodup ∧
      (columns.map fun c => csharpProperty c.name false).Nodup ∧
      (columns.map fun c => csharpProperty c.name true).Nodup ∧
      (columns.map fun c => typescriptProperty c.name).Nodup) ∧
    (∀ (affixes : Affixes) (a b : String), IsCanonical a → IsCanonical b → a ≠ b →
      typeName affixes a ≠ typeName affixes b) := by
  refine ⟨?_, ?_, ?_⟩
  · rintro a b ha hb (hcamel | hpascal)
    · exact eq_of_member_eq (fun _ => rfl) ha hb hcamel
    · exact eq_of_pascal_eq ha hb hpascal
  · intro columns hcanonical hdistinct
    refine ⟨?_, ?_, ?_, ?_⟩
    · exact nodup_members (fun _ _ => eq_of_member_eq readBack_javaField) hcanonical hdistinct
    · exact nodup_members (fun _ _ => eq_of_pascal_eq) hcanonical hdistinct
    · exact nodup_members (fun _ _ => eq_of_member_eq readBack_csharpProperty) hcanonical hdistinct
    · exact nodup_members (fun _ _ => eq_of_member_eq readBack_typescriptProperty) hcanonical
        hdistinct
  · intro affixes a b ha hb hne htype
    apply hne
    apply eq_of_pascal_eq ha hb
    rwa [typeName, typeName, String.append_left_inj, String.append_right_inj] at htype

/-- A word has to start with a letter: no capital marks where a number starts. -/
example : camel "a_1" = camel "a1" := by decide +kernel

/-- Columns whose names are a keyword, or differ in nothing but their underscores. -/
def similarColumns : List Column :=
  [Column.new 1 "class" "text", Column.new 2 "user_id1" "int", Column.new 3 "user_i_d1" "int",
   Column.new 4 "userid1" "int"]

theorem similar_columns_stay_apart :
    (∀ c ∈ similarColumns, IsCanonical c.name) ∧ (similarColumns.map (·.name)).Nodup ∧
    (similarColumns.map fun c => javaField c.name).Nodup ∧
    (similarColumns.map fun c => csharpProperty c.name true).Nodup ∧
    typeName ⟨"Api", "Dto"⟩ "user_id1" ≠ typeName ⟨"Api", "Dto"⟩ "userid1" := by
  have hcanonical : ∀ c ∈ similarColumns, IsCanonical c.name := by
    simp only [similarColumns, List.forall_mem_cons]
    exact ⟨⟨["class".toList], by decide, by decide, rfl⟩,
      ⟨["user".toList, "id1".toList], by decide, by decide, rfl⟩,
      ⟨["user".toList, "i".toList, "d1".toList], by decide, by decide, rfl⟩,
      ⟨["userid1".toList], by decide, by decide, rfl⟩, by simp⟩
  have hdistinct : (similarColumns.map (·.name)).Nodup := by decide
  obtain ⟨-, hmembers, htypes⟩ := canonical_names_never_clash
  obtain ⟨hjava, -, hcsharp, -⟩ := hmembers similarColumns hcanonical hdistinct
  refine ⟨hcanonical, hdistinct, hjava, hcsharp, ?_⟩
  exact htypes ⟨"Api", "Dto"⟩ "user_id1" "userid1"
    ⟨["user".toList, "id1".toList], by decide, by decide, rfl⟩
    ⟨["userid1".toList], by decide, by decide, rfl⟩ (by decide)

end SchemaCodegen.Naming
