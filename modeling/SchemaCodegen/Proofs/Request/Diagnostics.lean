import SchemaCodegen.Proofs.Document.Statements
import SchemaCodegen.Proofs.Request.Acceptance

/-!
# Where blank names are shown

A request that is decoded but has a blank name is reported with a span of its
source. The span is found by a search for the name, or for the name of the field
in the case of the language and the style, and the search is about the text and
not about the document. So it shows the first blank table name, or the key of the
field, unless what is looked for stands in quotes somewhere before.
-/

namespace SchemaCodegen.Request

open Document Text

/-! ## Fields in a document -/

/-- A document gives a value for a field: under a name of the field in a table, once, or at the
index of the field in a list, which has no keys. -/
inductive IsGiven (names : List String) (index : Nat) : Node → Option Key → Node → Prop where
  | byName {place : Span} {entries : List (Key × Node)} {key : Key} {value : Node}
      (h : entries.filter (names.contains ·.1.text) = [(key, value)]) :
      IsGiven names index (.table place entries) (some key) value
  | byIndex {place : Span} {items : List Node} {value : Node} (h : items[index]? = some value) :
      IsGiven names index (.list place items) none value

variable {names : List String} {index : Nat} {root value : Node} {key? : Option Key}

theorem IsGiven.has (h : IsGiven names index root key? value) {span : Span} {t : String}
    (hvalue : value.Has span t) : root.Has span t := by
  cases h with
  | byName h =>
      have hmem := List.mem_of_mem_filter (h ▸ List.mem_singleton_self _)
      exact .value hmem hvalue
  | byIndex h => exact .item (List.mem_of_getElem? h) hvalue

theorem IsGiven.has_key (h : IsGiven names index root key? value) {key : Key} (hkey : key ∈ key?) :
    key.text ∈ names ∧ root.Has key.span key.text := by
  cases h with
  | byName h =>
      cases hkey
      obtain ⟨hmem, hname⟩ := List.mem_filter.mp (h ▸ List.mem_singleton_self (key, value))
      exact ⟨List.contains_iff_mem.mp hname, .key hmem⟩
  | byIndex h => cases hkey

/-- What a field reads is given for it. -/
theorem isGiven_of_reads {f : TypedSlot Draft} {place : Span} {entries : List (Key × Node)}
    {content : f.Content} (h : f.Reads (f.nodes entries) none (some content)) (index : Nat) :
    ∃ key? value, IsGiven f.names index (.table place entries) key? value ∧
      f.decode value = .ok content := by
  rcases f.reads_none_iff.mp h with ⟨-, hnone⟩ | ⟨value, _, hnodes, hcontent, heq⟩
  · cases hnone
  · cases heq
    rw [TypedSlot.nodes, given, List.filter_map, List.map_map] at hnodes
    obtain ⟨⟨key, _⟩, hentries, rfl⟩ := List.map_eq_singleton_iff.mp hnodes
    exact ⟨some key, _, .byName hentries, hcontent⟩

/-- A decoded request has its components from the values that the document gives for the fields. -/
theorem exists_draft {r : Request} (h : ofNode root = .ok r) :
    ∃ absent draft, complete absent draft = .ok r ∧
      ∀ (index : Nat) (f : TypedSlot Draft), fields[index]? = some f →
        ∀ content, f.get draft = some content →
          ∃ key? value, IsGiven f.names index root key? value ∧ f.decode value = .ok content := by
  rw [ofNode] at h
  cases root with
  | scalar place content => cases h
  | table place entries =>
      obtain ⟨draft, ⟨hreads, -⟩, hcomplete⟩ := (shape_madeOf.decode_table_eq_ok_iff).mp h
      refine ⟨_, draft, hcomplete, ?_⟩
      intro index f hf content hget
      apply isGiven_of_reads
      rw [← hget]
      exact hreads f (List.mem_of_getElem? hf)
  | list place items =>
      obtain ⟨-, absent, draft, hfill, hcomplete⟩ := Shape.exists_of_decode_list h
      refine ⟨absent, draft, hcomplete, ?_⟩
      intro index f hf content hget
      rw [shape_madeOf.slots_eq] at hfill
      rcases shape_madeOf.fillItems_eq_ok (List.Subset.refl _) shape_madeOf.apart hfill hf with
        ⟨-, hkept⟩ | ⟨value, content', hvalue, hcontent, hread⟩
      · rw [shape_madeOf.blank f (List.mem_of_getElem? hf), hget] at hkept
        cases hkept
      · rw [hget] at hread
        cases hread
        exact ⟨none, value, .byIndex hvalue, hcontent⟩

/-- Where the document gives the language, the style and the table names. -/
theorem isGiven_of_ofNode {r : Request} (h : ofNode root = .ok r) :
    (∃ key? value, IsGiven ["language"] 0 root key? value ∧ value.asText = .ok r.language) ∧
    (∃ key? value, IsGiven ["style"] 1 root key? value ∧ value.asText = .ok r.style) ∧
    ∃ key? place items, IsGiven ["tableNames", "table_names"] 4 root key? (.list place items) ∧
      decodeAll Node.asText items = .ok r.tableNames := by
  obtain ⟨absent, draft, hcomplete, hgiven⟩ := exists_draft h
  obtain ⟨hlanguage, hstyle, -, -, htables, -⟩ := complete_eq_ok_iff.mp hcomplete
  obtain ⟨key?, value, hvalue, hdecode⟩ := hgiven 4 _ rfl r.tableNames htables
  refine ⟨hgiven 0 _ rfl r.language hlanguage, hgiven 1 _ rfl r.style hstyle, ?_⟩
  simp only [Node.asList] at hdecode
  split at hdecode
  · exact ⟨key?, _, _, hvalue, hdecode⟩
  · cases hdecode

/-! ## The first blank name -/

/-- The first element that is a blank text, after texts that are not. -/
def IsFirstBlank (elements : List Node) (element : Node) (name : String) : Prop :=
  ∃ before after, elements = before ++ element :: after ∧
    (∀ other ∈ before, ∃ t, other.asText = .ok t ∧ isAllBlank t = false) ∧
      element.asText = .ok name ∧ isAllBlank name = true

theorem exists_of_decodeAll {α : Type} {decode : Node → Except Fault α} {items : List Node}
    {before after : List α} {value : α}
    (h : decodeAll decode items = .ok (before ++ value :: after)) :
    ∃ lead node trail, items = lead ++ node :: trail ∧ decode node = .ok value ∧
      ∀ other ∈ lead, ∃ v ∈ before, decode other = .ok v := by
  induction items generalizing before with
  | nil =>
      rw [decodeAll, Except.ok.injEq] at h
      exact absurd h (by simp)
  | cons item items ih =>
      obtain ⟨first, rest, heq, hitem, hrest⟩ := decodeAll_cons_eq_ok_iff.mp h
      rcases before with _ | ⟨b, before⟩
      · obtain ⟨rfl, -⟩ := List.cons.inj heq
        exact ⟨[], item, items, rfl, hitem, by simp⟩
      · obtain ⟨rfl, rfl⟩ := List.cons.inj heq
        obtain ⟨lead, node, trail, rfl, hnode, hlead⟩ := ih hrest
        refine ⟨item :: lead, node, trail, rfl, hnode, ?_⟩
        refine List.forall_mem_cons.mpr ⟨⟨b, List.mem_cons_self, hitem⟩, ?_⟩
        intro other hother
        obtain ⟨v, hv, hdecode⟩ := hlead other hother
        exact ⟨v, List.mem_cons_of_mem _ hv, hdecode⟩

theorem isFirstBlank_of_find? {items : List Node} {texts : List String} {name : String}
    (h : decodeAll Node.asText items = .ok texts) (hname : texts.find? isAllBlank = some name) :
    ∃ element, IsFirstBlank items element name := by
  obtain ⟨hblank, before, after, rfl, hbefore⟩ := List.find?_eq_some_iff_append.mp hname
  obtain ⟨lead, element, trail, rfl, helement, hlead⟩ := exists_of_decodeAll h
  refine ⟨element, lead, trail, rfl, ?_, helement, hblank⟩
  intro other hother
  obtain ⟨t, ht, hdecode⟩ := hlead other hother
  exact ⟨t, hdecode, by simpa using hbefore t ht⟩

/-! ## Reports -/

/-- What makes a request invalid, and what is looked for in its source. -/
theorem problem?_cases {r : Request} {problem needle : String}
    (h : r.problem? = some (problem, needle)) :
    (problem = "language must not be empty" ∧ needle = "language" ∧
        isAllBlank r.language = true) ∨
      (problem = "style must not be empty" ∧ needle = "style" ∧ isAllBlank r.style = true) ∨
      (problem = "table names must not be blank" ∧
        r.tableNames.find? isAllBlank = some needle) := by
  unfold problem? at h
  split at h
  · rename_i hblank
    cases h
    exact Or.inl ⟨rfl, rfl, hblank⟩
  · split at h
    · rename_i hblank
      cases h
      exact Or.inr (Or.inl ⟨rfl, rfl, hblank⟩)
    · obtain ⟨name, hname, heq⟩ := Option.map_eq_some_iff.mp h
      cases heq
      exact Or.inr (Or.inr ⟨rfl, hname⟩)

/-- The report of a result, if there is one. -/
def report? {α : Type} : Except ReadError α → Option ReadError
  | .error report => some report
  | .ok _ => none

theorem eq_error_of_report? {α : Type} {result : Except ReadError α} {report : ReadError}
    (h : report? result = some report) : result = .error report := by
  cases result with
  | error found => exact congrArg Except.error (Option.some.inj h)
  | ok value => cases h

/-- A report of an invalid request is about a document that was decoded. -/
theorem exists_of_invalid {s s' : Source} {format : Format} {problem : String} {span : Option Span}
    (h : ofSource s format = .error (.invalid s' problem span)) :
    ∃ root r needle, format.read? s.text = some root ∧ ofNode root = .ok r ∧
      r.problem? = some (problem, needle) ∧ span = findSpan s.text needle := by
  cases hread : format.read? s.text with
  | none =>
      rw [ofSource, Source.decode, hread] at h
      cases h
  | some root =>
      refine ⟨root, ?_⟩
      rw [ofSource_of_read hread] at h
      cases hdecoded : ofNode root with
      | error fault =>
          simp only [hdecoded, Except.error.injEq] at h
          split at h
          · cases format <;> cases h
          · cases h
      | ok r =>
          cases hproblem : r.problem? with
          | none => simp [hdecoded, hproblem] at h
          | some found =>
              obtain ⟨text, needle⟩ := found
              simp only [hdecoded, hproblem, Source.invalid, Except.error.injEq,
                ReadError.invalid.injEq, Option.bind_some] at h
              obtain ⟨-, rfl, rfl⟩ := h
              exact ⟨r, needle, rfl, rfl, hproblem, rfl⟩

/-- What is shown is aimed at the source of an element, where this is the name in double quotes. -/
structure ElementShown (s : Source) (format : Format) (element : Node) (name : String)
    (span : Option Span) : Prop where
  aims : StandsAt (inQuotes name.toList) s.text.toList element.span.start →
    AimsInside s.text name element.span.start span
  written : format.WrittenAt s.text.toList element.span name

/-- What is shown is aimed at the source of a key, with double quotes or as a word. -/
structure KeyShown (s : Source) (format : Format) (key : Key) (name : String)
    (span : Option Span) : Prop where
  aims : StandsAt (inQuotes name.toList) s.text.toList key.span.start →
    AimsInside s.text name key.span.start span
  aims_bare : (∀ place, ¬ StandsAt (inQuotes name.toList) s.text.toList place) →
    StandsAt name.toList s.text.toList key.span.start →
      AimsAt s.text name key.span.start span
  written : format.WrittenAt s.text.toList key.span name

/-- A blank text has no quote in it. -/
theorem quote_notMem_of_isAllBlank {name : String} (h : isAllBlank name = true) :
    '"' ∉ name.toList := by
  intro hmem
  have hblank := List.all_eq_true.mp h _ hmem
  exact absurd hblank (by decide)

theorem elementShown {s : Source} {format : Format} {element : Node} {items : List Node}
    {place : Span} {name : String} {span : Option Span} (hread : format.read? s.text = some root)
    (hgiven : IsGiven names index root key? (.list place items))
    (helement : IsFirstBlank items element name) (hshown : Shown s.text name span) :
    ElementShown s format element name span := by
  obtain ⟨before, after, rfl, -, htext, hblank⟩ := helement
  refine ⟨hshown.aimsInside (quote_notMem_of_isAllBlank hblank), ?_⟩
  obtain ⟨place', rfl⟩ := Node.asText_eq_ok_iff.mp htext
  exact Format.writtenAt_of_read? hread _ _
    (hgiven.has (.item (List.mem_append_cons_self) (.text _ _)))

theorem keyShown {s : Source} {format : Format} {key : Key} {name : String} {span : Option Span}
    (hread : format.read? s.text = some root) (hgiven : IsGiven [name] index root key? value)
    (hkey : key ∈ key?) (hne : name ≠ "") (hquote : '"' ∉ name.toList)
    (hshown : Shown s.text name span) : KeyShown s format key name span := by
  obtain ⟨hname, hhas⟩ := hgiven.has_key hkey
  rw [List.mem_singleton] at hname
  rw [hname] at hhas
  exact ⟨hshown.aimsInside hquote, hshown.aimsAt hne, Format.writtenAt_of_read? hread _ _ hhas⟩

/-- The fields that must not be blank, with their indices and with what is reported. -/
def named : List (String × Nat × String) :=
  [("language", 0, "language must not be empty"), ("style", 1, "style must not be empty")]

/-- **Where blank names are shown.** The first blank table name is looked for, or for a blank
language or style the word that is the key of the field. The first place in quotes is shown, so that
it is the element or the key itself exactly if nothing before it looks the same. -/
theorem blank_names_shown (s : Source) (format : Format) (span : Option Span) :
    (ofSource s format = .error (.invalid s "table names must not be blank" span) →
      ∃ root key? place items element name, format.read? s.text = some root ∧
        IsGiven ["tableNames", "table_names"] 4 root key? (.list place items) ∧
        IsFirstBlank items element name ∧ Shown s.text name span ∧
        ElementShown s format element name span) ∧
    ∀ field ∈ named, ofSource s format = .error (.invalid s field.2.2 span) →
      ∃ root key? value blank, format.read? s.text = some root ∧
        IsGiven [field.1] field.2.1 root key? value ∧ value.asText = .ok blank ∧
        isAllBlank blank = true ∧ Shown s.text field.1 span ∧
        ∀ key ∈ key?, KeyShown s format key field.1 span := by
  -- a refusal on account of a blank name comes after decoding, so that the fields are there
  have hreport : ∀ problem, ofSource s format = .error (.invalid s problem span) →
      ∃ root r needle, format.read? s.text = some root ∧ ofNode root = .ok r ∧
        r.problem? = some (problem, needle) ∧ Shown s.text needle span := by
    intro problem h
    obtain ⟨root, r, needle, hread, hdecoded, hproblem, rfl⟩ := exists_of_invalid h
    exact ⟨root, r, needle, hread, hdecoded, hproblem, shown_findSpan s.text needle⟩
  constructor
  · intro h
    obtain ⟨root, r, name, hread, hdecoded, hproblem, hshown⟩ := hreport _ h
    obtain ⟨-, -, key?, place, items, hgiven, hitems⟩ := isGiven_of_ofNode hdecoded
    rcases problem?_cases hproblem with ⟨heq, -⟩ | ⟨heq, -⟩ | ⟨-, hname⟩
    · exact absurd heq (by decide)
    · exact absurd heq (by decide)
    · obtain ⟨element, helement⟩ := isFirstBlank_of_find? hitems hname
      exact ⟨root, key?, place, items, element, name, hread, hgiven, helement, hshown,
        elementShown hread hgiven helement hshown⟩
  · intro field hfield h
    obtain ⟨root, r, name, hread, hdecoded, hproblem, hshown⟩ := hreport _ h
    obtain ⟨⟨key?, value, hlanguage, hvalue⟩, ⟨key?', value', hstyle, hvalue'⟩, -⟩ :=
      isGiven_of_ofNode hdecoded
    simp only [named, List.mem_cons, List.not_mem_nil, or_false] at hfield
    rcases hfield with rfl | rfl
    · rcases problem?_cases hproblem with ⟨-, rfl, hblank⟩ | ⟨heq, -⟩ | ⟨heq, -⟩
      · exact ⟨root, key?, value, _, hread, hlanguage, hvalue, hblank, hshown, fun key hkey =>
          keyShown hread hlanguage hkey (by decide) (by decide) hshown⟩
      · exact absurd heq (by decide)
      · exact absurd heq (by decide)
    · rcases problem?_cases hproblem with ⟨heq, -⟩ | ⟨-, rfl, hblank⟩ | ⟨heq, -⟩
      · exact absurd heq (by decide)
      · exact ⟨root, key?', value', _, hread, hstyle, hvalue', hblank, hshown, fun key hkey =>
          keyShown hread hstyle hkey (by decide) (by decide) hshown⟩
      · exact absurd heq (by decide)

/-- A blank element after a name, and the key of a blank language without quotes. -/
theorem blank_names_found :
    let element : Source := ⟨"request.json",
      "\x7b\"language\": \"java\", \"style\": \"dto\", \"tableNames\": [\"users\", \" \"]\x7d"⟩
    let key : Source := ⟨"request.toml", "language = \"\"\nstyle = \"dto\"\ntableNames = []\n"⟩
    ofSource element .json =
        .error (.invalid element "table names must not be blank" (some ⟨62, 1⟩)) ∧
      (∃ found name, isAllBlank name = true ∧
        ElementShown element .json found name (some ⟨62, 1⟩)) ∧
      ofSource key .toml = .error (.invalid key "language must not be empty" (some ⟨0, 8⟩)) ∧
      ∃ found, KeyShown key .toml found "language" (some ⟨0, 8⟩) := by
  intro element key
  have helement : ofSource element .json =
      .error (.invalid element "table names must not be blank" (some ⟨62, 1⟩)) :=
    eq_error_of_report? (by decide +kernel)
  have hkey : ofSource key .toml =
      .error (.invalid key "language must not be empty" (some ⟨0, 8⟩)) :=
    eq_error_of_report? (by decide +kernel)
  have hroot : Format.toml.read? key.text = some (.table ⟨0, 0⟩
      [(⟨"language", ⟨0, 8⟩, 8⟩, .scalar ⟨11, 2⟩ (.text "")),
       (⟨"style", ⟨14, 5⟩, 19⟩, .scalar ⟨22, 5⟩ (.text "dto")),
       (⟨"tableNames", ⟨28, 10⟩, 38⟩, .list ⟨41, 2⟩ [])]) :=
    Format.read?_eq_of_same (by decide +kernel)
  obtain ⟨-, -, -, -, found, name, -, -, ⟨-, -, -, -, -, hblank⟩, -, hshown⟩ :=
    (blank_names_shown element .json _).1 helement
  obtain ⟨root, key?, _, _, hread, hgiven, -, -, -, hkeys⟩ :=
    (blank_names_shown key .toml _).2 _ (List.mem_cons_self ..) hkey
  refine ⟨helement, ⟨found, name, hblank, hshown⟩, hkey, ?_⟩
  rw [hroot, Option.some.injEq] at hread
  subst hread
  cases hgiven with
  | byName h => exact ⟨_, hkeys _ rfl⟩

/-- A prefix that is written like the blank element, or like the key of a blank language, is shown
in its place. -/
theorem affixes_shown_instead :
    let element : Source := ⟨"request.json",
      "\x7b\"language\": \"java\", \"style\": \"dto\", \"prefix\": \" \", \"tableNames\": [\" \"]\x7d"⟩
    let key : Source := ⟨"request.json",
      "\x7b\"prefix\": \"language\", \"language\": \"\", \"style\": \"dto\", \"tableNames\": []\x7d"⟩
    (ofSource element .json =
        .error (.invalid element "table names must not be blank" (some ⟨48, 1⟩)) ∧
      ∃ root key? place items found affixKey? affix,
        Format.json.read? element.text = some root ∧
        IsGiven ["tableNames", "table_names"] 4 root key? (.list place items) ∧
        IsFirstBlank items found " " ∧ ¬ Span.LiesIn ⟨48, 1⟩ found.span ∧
        IsGiven ["prefix"] 2 root affixKey? affix ∧ Span.LiesIn ⟨48, 1⟩ affix.span) ∧
    ofSource key .json = .error (.invalid key "language must not be empty" (some ⟨12, 8⟩)) ∧
      ∃ root found value affixKey? affix,
        Format.json.read? key.text = some root ∧
        IsGiven ["language"] 0 root (some found) value ∧
        ¬ Span.LiesIn ⟨12, 8⟩ found.span ∧ ¬ Span.LiesIn ⟨12, 8⟩ value.span ∧
        IsGiven ["prefix"] 2 root affixKey? affix ∧ Span.LiesIn ⟨12, 8⟩ affix.span := by
  intro element key
  have helement : Format.json.read? element.text = some (.table ⟨0, 72⟩
      [(⟨"language", ⟨1, 10⟩, 11⟩, .scalar ⟨13, 6⟩ (.text "java")),
       (⟨"style", ⟨21, 7⟩, 28⟩, .scalar ⟨30, 5⟩ (.text "dto")),
       (⟨"prefix", ⟨37, 8⟩, 45⟩, .scalar ⟨47, 3⟩ (.text " ")),
       (⟨"tableNames", ⟨52, 12⟩, 64⟩, .list ⟨66, 5⟩ [.scalar ⟨67, 3⟩ (.text " ")])]) :=
    Format.read?_eq_of_same (by decide +kernel)
  have hkey : Format.json.read? key.text = some (.table ⟨0, 72⟩
      [(⟨"prefix", ⟨1, 8⟩, 9⟩, .scalar ⟨11, 10⟩ (.text "language")),
       (⟨"language", ⟨23, 10⟩, 33⟩, .scalar ⟨35, 2⟩ (.text "")),
       (⟨"style", ⟨39, 7⟩, 46⟩, .scalar ⟨48, 5⟩ (.text "dto")),
       (⟨"tableNames", ⟨55, 12⟩, 67⟩, .list ⟨69, 2⟩ [])]) :=
    Format.read?_eq_of_same (by decide +kernel)
  have hblank : IsFirstBlank [.scalar ⟨67, 3⟩ (.text " ")] (.scalar ⟨67, 3⟩ (.text " ")) " " :=
    ⟨[], [], rfl, by simp, rfl, by decide⟩
  constructor
  · exact ⟨eq_error_of_report? (by decide +kernel), _, _, _, _, _, _, _, helement, .byName rfl,
      hblank, by decide, .byName rfl, by decide⟩
  · exact ⟨eq_error_of_report? (by decide +kernel), _, _, _, _, _, hkey, .byName rfl, by decide,
      by decide, .byName rfl, by decide⟩

end SchemaCodegen.Request
