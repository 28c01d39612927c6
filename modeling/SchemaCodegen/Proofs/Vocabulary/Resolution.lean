import SchemaCodegen.Emission.Configured
import SchemaCodegen.Proofs.Document.Entries
import SchemaCodegen.Proofs.Text.Lowering

/-!
# Names of targets

A language and a style go by a name of their own and by aliases, in any letter case.
A name is put into lower case with all of Unicode before it is looked up, but no
name and no alias has a letter that comes from outside ASCII, so that what is
accepted is what equals one of them up to the case of ASCII letters. No two
languages and no two styles have a name in common, and no two targets have both
their language and their style in common.
-/

namespace SchemaCodegen

open Text

/-! ## Spellings -/

/-- The characters that the spellings of languages and styles are made of. A `k`, which the sign of
the kelvin turns into, is not among them. -/
def nameCharacters : List Char := "abcdefhijlmnoprstvxyz#-".toList

theorem asciiSourced_of_mem {d : Char} (h : d ∈ nameCharacters) : AsciiSourced d := by
  have hall : nameCharacters.all (decide <| AsciiSourced ·) = true := by decide +kernel
  exact of_decide_eq_true (List.all_eq_true.mp hall d h)

theorem lowerAscii_of_mem {d : Char} (h : d ∈ nameCharacters) : lowerAscii d = d := by
  have hall : nameCharacters.all (fun d => lowerAscii d == d) = true := by decide
  exact eq_of_beq (List.all_eq_true.mp hall d h)

def IsOneOf (names : List String) (s : String) : Prop :=
  ∃ name ∈ names, equalAsciiFolded s name = true

/-- A table of spellings that are made of these characters, and of which none stands twice. -/
structure IsVocabulary {α : Type} (spellings : List (String × α)) : Prop where
  characters : ∀ e ∈ spellings, e.1.toList ⊆ nameCharacters
  /-- An `i` at the end would be left of a capital `İ` without its dot. -/
  last : ∀ e ∈ spellings, e.1.toList.getLast? ≠ some 'i'
  distinct : (spellings.map Prod.fst).Nodup

namespace IsVocabulary

variable {α : Type} {spellings : List (String × α)} (h : IsVocabulary spellings)
include h

/-- A text in lower case is a spelling exactly if it is so up to the case of ASCII letters. -/
theorem lower_eq_iff {e : String × α} (he : e ∈ spellings) (s : String) :
    lower s = e.1 ↔ equalAsciiFolded s e.1 = true := by
  have hword : AsciiWord e.1.toList :=
    ⟨fun d hd => asciiSourced_of_mem (h.characters e he hd), h.last e he⟩
  have hfolded : e.1.toList.map lowerAscii = e.1.toList := by
    rw [List.map_congr_left fun d hd => lowerAscii_of_mem (h.characters e he hd), List.map_id']
  rw [lower, ← String.toList_inj, String.toList_ofList, hword.lowerChars_eq_iff, equalAsciiFolded,
    beq_iff_eq, hfolded]

/-- What is found in lower case is what is spelt so up to the case of ASCII letters. -/
theorem lookup_lower_eq_some_iff {names : List String} {member : α}
    (hnames : ∀ word, (word, member) ∈ spellings ↔ word ∈ names) {s : String} :
    spellings.lookup (lower s) = some member ↔ IsOneOf names s := by
  rw [← Document.mem_iff_lookup h.distinct]
  constructor
  · intro hmem
    exact ⟨lower s, (hnames _).mp hmem, (h.lower_eq_iff hmem s).mp rfl⟩
  · rintro ⟨word, hword, hsame⟩
    have hmem := (hnames word).mpr hword
    have hlower : lower s = word := (h.lower_eq_iff hmem s).mpr hsame
    rwa [hlower]

end IsVocabulary

theorem Language.isVocabulary_spellings : IsVocabulary Language.spellings where
  characters := by decide
  last := by decide
  distinct := by decide

theorem Style.isVocabulary_spellings : IsVocabulary Style.spellings where
  characters := by decide
  last := by decide
  distinct := by decide

/-! ## Names -/

/-- The names of a language: its own, and its aliases. -/
def Language.names : Language → List String
  | java => ["java"]
  | csharp => ["csharp", "cs", "c#"]
  | typescript => ["typescript", "ts"]

def Style.names : Style → List String
  | dto => ["dto"]
  | record => ["record"]
  | interface => ["interface"]
  | objectClass => ["class"]
  | type => ["type"]
  | zod => ["zod"]
  | mapperXml => ["mybatis-xml", "mybatis", "xml"]
  | mapperInterface => ["mybatis-annotation", "annotation"]

theorem Language.ofName_eq_ok_iff {s : String} {l : Language} :
    ofName s = .ok l ↔ IsOneOf l.names s := by
  have hnames : ∀ word, (word, l) ∈ spellings ↔ word ∈ l.names := by
    intro word
    cases l <;> simp [spellings, names]
  rw [← isVocabulary_spellings.lookup_lower_eq_some_iff hnames, ofName]
  cases spellings.lookup (lower s) <;> simp

theorem Style.ofName_eq_ok_iff {s : String} {style : Style} :
    ofName s = .ok style ↔ IsOneOf style.names s := by
  have hnames : ∀ word, (word, style) ∈ spellings ↔ word ∈ style.names := by
    intro word
    cases style <;> simp [spellings, names]
  rw [← isVocabulary_spellings.lookup_lower_eq_some_iff hnames, ofName]
  cases spellings.lookup (lower s) <;> simp

namespace Target

/-- Two texts name the target: its language and its style. -/
structure IsNamed (t : Target) (language style : String) : Prop where
  language : IsOneOf t.language.names language
  style : IsOneOf t.style.names style

theorem ofPair?_eq_some_iff {l : Language} {s : Style} {t : Target} :
    ofPair? l s = some t ↔ t.language = l ∧ t.style = s := by
  have hall : ∀ t, t ∈ all := by
    intro t
    cases t <;> decide
  have hunique : ∀ t ∈ all, ∀ other ∈ all,
      t.language = other.language → t.style = other.style → t = other := by
    decide
  constructor
  · intro h
    simpa using List.find?_some h
  · rintro ⟨rfl, rfl⟩
    cases hfind : ofPair? t.language t.style with
    | none => simpa using List.find?_eq_none.mp hfind t (hall t)
    | some other =>
        have hsame : other.language = t.language ∧ other.style = t.style := by
          simpa using List.find?_some hfind
        rw [hunique other (hall other) t (hall t) hsame.1 hsame.2]

theorem ofNames?_eq_some_iff {language style : String} {t : Target} :
    ofNames? language style = some t ↔ t.IsNamed language style := by
  have hnamed : t.IsNamed language style ↔
      Language.ofName language = .ok t.language ∧ Style.ofName style = .ok t.style := by
    rw [Language.ofName_eq_ok_iff, Style.ofName_eq_ok_iff]
    exact ⟨fun h => ⟨h.language, h.style⟩, fun h => ⟨h.1, h.2⟩⟩
  rw [hnamed, ofNames?]
  cases Language.ofName language with
  | error unknown => simp
  | ok l =>
      cases Style.ofName style with
      | error unknown => simp
      | ok s =>
          simp only [Except.ok.injEq, ofPair?_eq_some_iff]
          exact and_congr eq_comm eq_comm

theorem resolve_eq_ok_iff {language style : String} {t : Target} :
    resolve language style = .ok t ↔ t.IsNamed language style := by
  rw [← ofNames?_eq_some_iff, resolve]
  cases ofNames? language style <;> simp

theorem resolve_eq_error_iff {language style : String} {failure : GenerationError} :
    resolve language style = .error failure ↔
      failure = .unsupportedTarget language style ∧ ∀ t, ¬ IsNamed t language style := by
  simp only [← ofNames?_eq_some_iff]
  rw [resolve]
  cases ofNames? language style <;> simp [eq_comm]

/-- **Targets are resolved by exactly their names.** A pair of texts resolves to a target if the
first is a name of its language and the second a name of its style, up to the case of ASCII
letters. Only one target has the names, its own names in any letter case lead back to it, and all
other texts are refused as they were given. -/
theorem resolved_by_names (language style : String) :
    (∀ t, resolve language style = .ok t ↔ t.IsNamed language style) ∧
    (∀ t t' : Target, t.IsNamed language style → t'.IsNamed language style → t = t') ∧
    (∀ t : Target, equalAsciiFolded language t.language.name = true →
      equalAsciiFolded style t.style.name = true → resolve language style = .ok t) ∧
    ∀ failure, resolve language style = .error failure ↔
      failure = .unsupportedTarget language style ∧ ∀ t, ¬ IsNamed t language style := by
  refine ⟨fun t => resolve_eq_ok_iff, ?_, ?_, fun failure => resolve_eq_error_iff⟩
  · intro t t' h h'
    rw [← resolve_eq_ok_iff] at h h'
    rw [h] at h'
    exact Except.ok.inj h'
  · intro t hlanguage hstyle
    have hown : t.language.name ∈ t.language.names ∧ t.style.name ∈ t.style.names := by
      cases t <;> decide
    exact resolve_eq_ok_iff.mpr ⟨⟨_, hown.1, hlanguage⟩, ⟨_, hown.2, hstyle⟩⟩

/-- Aliases in capitals, a name of a target in mixed case, and a letter that is no `i` before it is
put into lower case. -/
theorem aliases_and_capitals_resolve :
    resolve "C#" "RECORD" = .ok .csharpRecord ∧
    resolve "Java" "MyBatis-XML" = .ok .javaMapperXml ∧
    resolve "Java" "XML" = .ok .javaMapperXml ∧
    resolve "typescrİpt" "zod" = .error (.unsupportedTarget "typescrİpt" "zod") := by
  have hnamed : csharpRecord.IsNamed "C#" "RECORD" :=
    ⟨⟨"c#", by decide, by decide⟩, ⟨"record", by decide, by decide⟩⟩
  have halias : javaMapperXml.IsNamed "Java" "XML" :=
    ⟨⟨"java", by decide, by decide⟩, ⟨"xml", by decide, by decide⟩⟩
  have hnone : ∀ t, ¬ IsNamed t "typescrİpt" "zod" := by
    have hnames : ∀ t ∈ all, ∀ name ∈ t.language.names,
        equalAsciiFolded "typescrİpt" name = false := by
      decide
    rintro t ⟨⟨name, hname, hsame⟩, -⟩
    rw [hnames t (by cases t <;> decide) name hname] at hsame
    cases hsame
  refine ⟨((resolved_by_names _ _).1 _).mpr hnamed, ?_, ((resolved_by_names _ _).1 _).mpr halias,
    ((resolved_by_names _ _).2.2.2 _).mpr ⟨rfl, hnone⟩⟩
  exact (resolved_by_names _ _).2.2.1 javaMapperXml (by decide) (by decide)

end Target

end SchemaCodegen
