import SchemaCodegen.Proofs.Document.Filling
import SchemaCodegen.Request.Basic

/-!
# What is accepted as a request

A document is a request if it is a table that gives the language, the style and
the table names once each, and the affixes and the options at most once each,
all of the right type and none of the names blank. Whatever else the table has
in it, and in which order, makes no difference. A list of the six values in the
order of the fields is as good as the table.
-/

namespace SchemaCodegen.Request

open Document

/-! ## The fields -/

def fields : List (TypedSlot Draft) :=
  [⟨String, "language", [], Draft.language, fun v d => { d with language := some v }, Node.asText⟩,
   ⟨String, "style", [], Draft.style, fun v d => { d with style := some v }, Node.asText⟩,
   ⟨String, "prefix", [], Draft.before, fun v d => { d with before := some v }, Node.asText⟩,
   ⟨String, "suffix", [], Draft.after, fun v d => { d with after := some v }, Node.asText⟩,
   ⟨List String, "tableNames", ["table_names"], Draft.tableNames,
    fun v d => { d with tableNames := some v }, Node.asList Node.asText⟩,
   ⟨Value, "options", [], Draft.options, fun v d => { d with options := some v }, Value.ofNode⟩]

theorem shape_madeOf : shape.MadeOf fields where
  slots_eq := rfl
  apart := by
    simp only [fields, List.pairwise_cons, List.forall_mem_cons, List.not_mem_nil,
      false_implies, implies_true, List.Pairwise.nil, and_true]
    and_intros
    all_goals
      constructor
      · simp [TypedSlot.names]
      · intro v d
        rfl
      · intro v d
        rfl
  get_put := by
    simp [fields]
  ext := by
    rintro ⟨language, style, before, after, tableNames, options⟩ d h
    simp only [fields, List.forall_mem_cons] at h
    obtain ⟨rfl, rfl, rfl, rfl, rfl, rfl, -⟩ := h
    rfl
  blank := by
    simp [fields, shape]

theorem complete_eq_ok_iff {absent : Nat → String → Cause} {d : Draft} {r : Request} :
    complete absent d = .ok r ↔
      d.language = some r.language ∧ d.style = some r.style ∧
        d.before.getD "" = r.affixes.before ∧ d.after.getD "" = r.affixes.after ∧
        d.tableNames = some r.tableNames ∧ d.options.getD .null = r.options := by
  obtain ⟨language, style, before, after, tableNames, options⟩ := d
  obtain ⟨rlanguage, rstyle, ⟨rbefore, rafter⟩, rtables, roptions⟩ := r
  rw [complete]
  cases language with
  | none => simp [required, bind, Except.bind]
  | some language =>
      cases style with
      | none => simp [required, bind, Except.bind]
      | some style =>
          cases tableNames with
          | none => simp [required, bind, Except.bind]
          | some tableNames =>
              simp [required, bind, Except.bind, pure, Except.pure, and_assoc]

/-! ## What members give -/

/-- The names that a request has a use for. -/
def knownNames : List String := fields.flatMap TypedSlot.names

/-- Members give a request: each value stands under its name exactly once, or not at all if it has
its default. -/
structure Gives (members : Members) (r : Request) : Prop where
  language : given ["language"] members = [.text r.language]
  style : given ["style"] members = [.text r.style]
  before : given ["prefix"] members = [] ∧ r.affixes.before = "" ∨
    given ["prefix"] members = [.text r.affixes.before]
  after : given ["suffix"] members = [] ∧ r.affixes.after = "" ∨
    given ["suffix"] members = [.text r.affixes.after]
  tableNames : given ["tableNames", "table_names"] members = [.list (r.tableNames.map .text)]
  options : given ["options"] members = [] ∧ r.options = .null ∨
    ∃ t, given ["options"] members = [t] ∧ r.options = t.value

/-- A component of a draft for an affix, which is empty unless given. -/
theorem exists_affix_iff {trees : List Document.Tree} {affix : String} :
    (∃ after : Option String,
      (trees = [] ∧ after = none ∨ ∃ s, trees = [.text s] ∧ after = some s) ∧
        after.getD "" = affix) ↔
      trees = [] ∧ affix = "" ∨ trees = [.text affix] := by
  constructor
  · rintro ⟨_, ⟨hnone, rfl⟩ | ⟨s, hone, rfl⟩, rfl⟩
    · exact Or.inl ⟨hnone, rfl⟩
    · exact Or.inr hone
  · rintro (⟨hnone, rfl⟩ | hone)
    · exact ⟨none, Or.inl ⟨hnone, rfl⟩, rfl⟩
    · exact ⟨some affix, Or.inr ⟨affix, hone, rfl⟩, rfl⟩

/-- A component of a draft for the options, which are null unless given. -/
theorem exists_options_iff {trees : List Document.Tree} {options : Value} :
    (∃ after : Option Value,
      (trees = [] ∧ after = none ∨ ∃ t, trees = [t] ∧ after = some t.value) ∧
        after.getD .null = options) ↔
      trees = [] ∧ options = .null ∨ ∃ t, trees = [t] ∧ options = t.value := by
  constructor
  · rintro ⟨_, ⟨hnone, rfl⟩ | ⟨t, hone, rfl⟩, rfl⟩
    · exact Or.inl ⟨hnone, rfl⟩
    · exact Or.inr ⟨t, hone, rfl⟩
  · rintro (⟨hnone, rfl⟩ | ⟨t, hone, rfl⟩)
    · exact ⟨none, Or.inl ⟨hnone, rfl⟩, rfl⟩
    · exact ⟨some t.value, Or.inr ⟨t, hone, rfl⟩, rfl⟩

/-- **A table is decoded to the request that its members give.** -/
theorem ofNode_eq_ok_iff {n : Node} {members : Members} (h : Holds n (.table members))
    {r : Request} : ofNode n = .ok r ↔ Gives members r := by
  rcases h with ⟨⟩
  rename_i entries written hmembers order
  rw [ofNode, shape_madeOf.decode_table_eq_ok_iff]
  simp only [fields, List.forall_mem_cons, hmembers.reads_text_iff order,
    hmembers.reads_texts_iff order, hmembers.reads_value_iff order]
  -- the draft holds what was given, and completion puts in the defaults
  constructor
  · rintro ⟨d, ⟨⟨hlanguage, hstyle, hbefore, hafter, htables, hoptions, -⟩, -⟩, hcomplete⟩
    obtain ⟨hlanguage', hstyle', hbefore', hafter', htables', hoptions'⟩ :=
      complete_eq_ok_iff.mp hcomplete
    exact
      { language := by simpa [hlanguage'] using hlanguage
        style := by simpa [hstyle'] using hstyle
        before := exists_affix_iff.mp ⟨_, hbefore, hbefore'⟩
        after := exists_affix_iff.mp ⟨_, hafter, hafter'⟩
        tableNames := by simpa [htables'] using htables
        options := exists_options_iff.mp ⟨_, hoptions, hoptions'⟩ }
  · intro hgives
    obtain ⟨before, hbefore, hbefore'⟩ := exists_affix_iff.mpr hgives.before
    obtain ⟨after, hafter, hafter'⟩ := exists_affix_iff.mpr hgives.after
    obtain ⟨options, hoptions, hoptions'⟩ := exists_options_iff.mpr hgives.options
    refine ⟨⟨r.language, r.style, before, after, r.tableNames, options⟩, ⟨⟨?_, ?_, hbefore, hafter,
      ?_, hoptions, List.forall_mem_nil _⟩, ?_⟩, ?_⟩
    · exact Or.inr ⟨_, hgives.language, rfl⟩
    · exact Or.inr ⟨_, hgives.style, rfl⟩
    · exact Or.inr ⟨_, hgives.tableNames, rfl⟩
    · intro e he _
      exact hmembers.obstacle?_eq_none e he
    · exact complete_eq_ok_iff.mpr ⟨rfl, rfl, hbefore', hafter', rfl, hoptions'⟩

/-- Members give the same request in any order, and whatever is given under other names. -/
theorem Gives.of_perm {members others : Members} {r : Request}
    (hperm : (others.filter (knownNames.contains ·.1)).Perm
      (members.filter (knownNames.contains ·.1))) (h : Gives members r) : Gives others r := by
  -- a list with at most one element has no other order
  have hnone : ∀ names ⊆ knownNames, given names members = [] → given names others = [] := by
    intro names hknown hnil
    have hsame := given_perm_of_known hknown hperm
    rw [hnil] at hsame
    exact List.perm_nil.mp hsame
  have hone : ∀ names ⊆ knownNames, ∀ t, given names members = [t] → given names others = [t] := by
    intro names hknown t hsingle
    have hsame := given_perm_of_known hknown hperm
    rw [hsingle] at hsame
    exact List.perm_singleton.mp hsame
  have haffix : ∀ names ⊆ knownNames, ∀ affix,
      given names members = [] ∧ affix = "" ∨ given names members = [.text affix] →
      given names others = [] ∧ affix = "" ∨ given names others = [.text affix] := by
    rintro names hknown affix (⟨hnil, hempty⟩ | hsingle)
    · exact Or.inl ⟨hnone names hknown hnil, hempty⟩
    · exact Or.inr (hone names hknown _ hsingle)
  refine ⟨hone _ (by decide) _ h.language, hone _ (by decide) _ h.style,
    haffix _ (by decide) _ h.before, haffix _ (by decide) _ h.after,
    hone _ (by decide) _ h.tableNames, ?_⟩
  rcases h.options with ⟨hnil, hnull⟩ | ⟨t, hsingle, hvalue⟩
  · exact Or.inl ⟨hnone _ (by decide) hnil, hnull⟩
  · exact Or.inr ⟨t, hone _ (by decide) _ hsingle, hvalue⟩

/-- **A list of the six values is decoded like the table that gives them by name.** -/
theorem ofNode_list_eq_ok_iff {n : Node}
    {language style before after tableNames options : Document.Tree}
    (h : Holds n (.list [language, style, before, after, tableNames, options])) {r : Request} :
    ofNode n = .ok r ↔
      Gives [("language", language), ("style", style), ("prefix", before), ("suffix", after),
        ("tableNames", tableNames), ("options", options)] r := by
  have hcomplete : ∀ absent absent' draft record,
      shape.complete absent draft = .ok record → shape.complete absent' draft = .ok record := by
    intro absent absent' draft record h
    exact complete_eq_ok_iff.mpr (complete_eq_ok_iff.mp h)
  obtain ⟨table, htable, hsame⟩ := shape_madeOf.exists_table_of_list hcomplete h rfl
  exact (hsame r).trans (ofNode_eq_ok_iff htable)

/-! ## What is allowed -/

/-- No name of a request is blank. -/
structure Valid (r : Request) : Prop where
  language : Text.isAllBlank r.language = false
  style : Text.isAllBlank r.style = false
  tableNames : ∀ name ∈ r.tableNames, Text.isAllBlank name = false

theorem problem?_eq_none_iff {r : Request} : r.problem? = none ↔ r.Valid := by
  rw [problem?]
  constructor
  · intro h
    split at h
    · cases h
    · next hlanguage =>
        split at h
        · cases h
        · next hstyle =>
            rw [Option.map_eq_none_iff, List.find?_eq_none] at h
            simp only [Bool.not_eq_true] at hlanguage hstyle h
            exact ⟨hlanguage, hstyle, h⟩
  · rintro ⟨hlanguage, hstyle, htables⟩
    simp only [hlanguage, hstyle, if_neg Bool.false_ne_true, Option.map_eq_none_iff,
      List.find?_eq_none]
    intro name hname
    rw [htables name hname]
    exact Bool.false_ne_true

variable {s : Source} {format : Format} {n : Node}

theorem ofSource_of_read (hread : format.read? s.text = some n) :
    ofSource s format =
      match ofNode n with
      | .error fault =>
        .error (if format.isSound n then s.mistyped format fault else .malformed s)
      | .ok r =>
        match r.problem? with
        | none => .ok r
        | some (problem, needle) => .error (s.invalid problem (some needle)) := by
  rw [ofSource, Source.decode, hread]
  simp only
  cases ofNode n <;> rfl

/-- A source is accepted if its document is decoded and no name is blank. -/
theorem ofSource_eq_ok_iff (hread : format.read? s.text = some n) {r : Request} :
    ofSource s format = .ok r ↔ ofNode n = .ok r ∧ r.Valid := by
  rw [ofSource_of_read hread]
  cases ofNode n with
  | error fault => simp
  | ok found =>
      cases hproblem : found.problem? with
      | none =>
          have hvalid := problem?_eq_none_iff.mp hproblem
          simp only [hproblem, Except.ok.injEq]
          constructor
          · rintro rfl
            exact ⟨rfl, hvalid⟩
          · exact And.left
      | some problem =>
          simp only [hproblem]
          constructor
          · rintro ⟨⟩
          · rintro ⟨heq, hvalid⟩
            cases heq
            rw [problem?_eq_none_iff.mpr hvalid] at hproblem
            cases hproblem

/-- A source is refused for a blank name only if its document is decoded. -/
theorem ofSource_eq_invalid_iff (hread : format.read? s.text = some n) {problem : String} :
    (∃ span, ofSource s format = .error (.invalid s problem span)) ↔
      ∃ r needle, ofNode n = .ok r ∧ r.problem? = some (problem, needle) := by
  rw [ofSource_of_read hread]
  cases ofNode n with
  | error fault =>
      constructor
      · rintro ⟨span, h⟩
        simp only [Except.error.injEq] at h
        split at h
        · cases format <;> cases h
        · cases h
      · rintro ⟨_, _, ⟨⟩, _⟩
  | ok found =>
      cases hproblem : found.problem? with
      | none => simp [hproblem]
      | some problem =>
          obtain ⟨text, needle⟩ := problem
          simp [hproblem, Source.invalid]

/-! ## The format -/

/-- Members are a request that is allowed: the three values without a default stand in them exactly
once and the others at most once, all of the right type, and no name is blank. -/
structure Admissible (members : Members) : Prop where
  language : ∃ name, given ["language"] members = [.text name] ∧ Text.isAllBlank name = false
  style : ∃ name, given ["style"] members = [.text name] ∧ Text.isAllBlank name = false
  before : given ["prefix"] members = [] ∨ ∃ affix, given ["prefix"] members = [.text affix]
  after : given ["suffix"] members = [] ∨ ∃ affix, given ["suffix"] members = [.text affix]
  tableNames : ∃ names : List String,
    given ["tableNames", "table_names"] members = [.list (names.map .text)] ∧
      ∀ name ∈ names, Text.isAllBlank name = false
  options : given ["options"] members = [] ∨ ∃ t, given ["options"] members = [t]

theorem exists_gives_iff {members : Members} :
    (∃ r, Gives members r ∧ r.Valid) ↔ Admissible members := by
  constructor
  · rintro ⟨r, hgives, hvalid⟩
    exact
      { language := ⟨_, hgives.language, hvalid.language⟩
        style := ⟨_, hgives.style, hvalid.style⟩
        before := hgives.before.imp And.left fun h => ⟨_, h⟩
        after := hgives.after.imp And.left fun h => ⟨_, h⟩
        tableNames := ⟨_, hgives.tableNames, hvalid.tableNames⟩
        options := hgives.options.imp And.left fun h => h.imp fun _ => And.left }
  · rintro ⟨⟨language, hlanguage, hlanguage'⟩, ⟨style, hstyle, hstyle'⟩, hbefore, hafter,
      ⟨names, hnames, hnames'⟩, hoptions⟩
    have haffix : ∀ {trees : List Document.Tree}, (trees = [] ∨ ∃ affix, trees = [.text affix]) →
        ∃ affix, trees = [] ∧ affix = "" ∨ trees = [.text affix] := by
      rintro trees (hnone | ⟨affix, hone⟩)
      · exact ⟨"", Or.inl ⟨hnone, rfl⟩⟩
      · exact ⟨affix, Or.inr hone⟩
    obtain ⟨before, hbefore'⟩ := haffix hbefore
    obtain ⟨after, hafter'⟩ := haffix hafter
    obtain ⟨options, hoptions'⟩ : ∃ options, given ["options"] members = [] ∧ options = .null ∨
        ∃ t, given ["options"] members = [t] ∧ options = t.value := by
      rcases hoptions with hnone | ⟨t, hone⟩
      · exact ⟨.null, Or.inl ⟨hnone, rfl⟩⟩
      · exact ⟨t.value, Or.inr ⟨t, hone, rfl⟩⟩
    exact ⟨⟨language, style, ⟨before, after⟩, names, options⟩,
      ⟨hlanguage, hstyle, hbefore', hafter', hnames, hoptions'⟩, hlanguage', hstyle', hnames'⟩

/-- **Requests are accepted exactly in their format.** A table is accepted if
its members are admissible, as the request that they give. Neither their order
nor what is given under unknown names makes a difference, and the list of the
six values is accepted as the same request as their table. -/
theorem accepted_iff_admissible {members : Members}
    (hread : format.read? s.text = some n) (h : Holds n (.table members)) :
    ((∃ r, ofSource s format = .ok r) ↔ Admissible members) ∧
    (∀ r, ofSource s format = .ok r ↔ Gives members r ∧ r.Valid) ∧
    (∀ (s' : Source) (n' : Node) (others : Members),
      format.read? s'.text = some n' → Holds n' (.table others) →
      (others.filter (knownNames.contains ·.1)).Perm (members.filter (knownNames.contains ·.1)) →
      ∀ r, ofSource s' format = .ok r ↔ ofSource s format = .ok r) ∧
    ∀ (s' : Source) (n' : Node) (language style before after tableNames options : Document.Tree),
      format.read? s'.text = some n' →
      Holds n' (.list [language, style, before, after, tableNames, options]) →
      members = [("language", language), ("style", style), ("prefix", before), ("suffix", after),
        ("tableNames", tableNames), ("options", options)] →
      ∀ r, ofSource s' format = .ok r ↔ ofSource s format = .ok r := by
  have haccepted : ∀ r, ofSource s format = .ok r ↔ Gives members r ∧ r.Valid := by
    intro r
    rw [ofSource_eq_ok_iff hread, ofNode_eq_ok_iff h]
  refine ⟨?_, haccepted, ?_, ?_⟩
  · simp only [haccepted, exists_gives_iff]
  · intro s' n' others hread' h' hperm r
    rw [haccepted, ofSource_eq_ok_iff hread', ofNode_eq_ok_iff h']
    exact and_congr_left fun _ => ⟨.of_perm hperm.symm, .of_perm hperm⟩
  · rintro s' n' language style before after tableNames options hread' h' rfl r
    rw [haccepted, ofSource_eq_ok_iff hread', ofNode_list_eq_ok_iff h']

/-- A table, its members in reverse after an unknown one, and the list of its values. -/
theorem accepted_in_every_order :
    let request : Request :=
      ⟨"java", "dto", ⟨"", "Row"⟩, ["users"], .object [("data", .bool true)]⟩
    let table : Source := ⟨"request.json",
      "\x7b\"language\": \"java\", \"style\": \"dto\", \"prefix\": \"\", \"suffix\": \"Row\", " ++
        "\"tableNames\": [\"users\"], \"options\": \x7b\"data\": true\x7d\x7d"⟩
    let reversed : Source := ⟨"request.json",
      "\x7b\"note\": 1, \"options\": \x7b\"data\": true\x7d, \"tableNames\": [\"users\"], " ++
        "\"suffix\": \"Row\", \"prefix\": \"\", \"style\": \"dto\", \"language\": \"java\"\x7d"⟩
    let list : Source := ⟨"request.json",
      "[\"java\", \"dto\", \"\", \"Row\", [\"users\"], \x7b\"data\": true\x7d]"⟩
    ofSource table .json = .ok request ∧ ofSource reversed .json = .ok request ∧
      ofSource list .json = .ok request := by
  intro request table reversed list
  let members : Members :=
    [("language", .text "java"), ("style", .text "dto"), ("prefix", .text ""),
     ("suffix", .text "Row"), ("tableNames", .list [.text "users"]),
     ("options", .table [("data", .bool true)])]
  let others : Members := ("note", .int 1) :: members.reverse
  have htable : Format.json.reads table.text (.table members) = true := by decide +kernel
  have hreversed : Format.json.reads reversed.text (.table others) = true := by decide +kernel
  have hlist : Format.json.reads list.text (.list (members.map Prod.snd)) = true := by
    decide +kernel
  obtain ⟨n, hread, h⟩ := Format.exists_holds htable
  obtain ⟨_, hread', h'⟩ := Format.exists_holds hreversed
  obtain ⟨_, hread'', h''⟩ := Format.exists_holds hlist
  obtain ⟨-, haccepted, hsame, halike⟩ := accepted_iff_admissible hread h
  have hperm : (others.filter (knownNames.contains ·.1)).Perm
      (members.filter (knownNames.contains ·.1)) := members.reverse_perm
  have hgives : Gives members request :=
    ⟨rfl, rfl, Or.inr rfl, Or.inr rfl, rfl, Or.inr ⟨_, rfl, rfl⟩⟩
  have hvalid : request.Valid := ⟨by decide, by decide, by decide⟩
  have haccept : ofSource table .json = .ok request := (haccepted request).mpr ⟨hgives, hvalid⟩
  exact ⟨haccept, (hsame _ _ _ hread' h' hperm request).mpr haccept,
    (halike _ _ _ _ _ _ _ _ hread'' h'' rfl request).mpr haccept⟩

end SchemaCodegen.Request
