import SchemaCodegen.Proofs.Text.Lowering
import SchemaCodegen.Proofs.TypeMap.Correspondence
import SchemaCodegen.Proofs.TypeMap.Parentheses

/-!
# Array types

Postgres writes the name of an array type with an underscore before the name of
the element or with brackets after it. Names are normalised before the element is
taken out, so the marks have to come through that: they are no parentheses, no
blanks and no letters. The one name for which the two spellings part is the
underscore alone, and it has no entry under either. The other engines have no
array types, and none of their names looks like one.
-/

namespace SchemaCodegen

open Text

namespace TypeName

/-! ## Marks in normalised names -/

theorem normalize_toList (raw : String) :
    (normalize raw).toList = lowerChars [] (collapseBlanks (outsideParens 0 raw.toList)) :=
  String.toList_ofList

theorem isTrimmed_normalize (raw : String) : IsTrimmed (normalize raw).toList := by
  rw [normalize_toList]
  exact (isTrimmed_collapseBlanks _).lowerChars []

/-- The marks of array types are no blanks, and lower case leaves them as they are. -/
theorem marks_settled :
    isBlank '_' = false ∧ isBlank '[' = false ∧ isBlank ']' = false ∧ isBlank ' ' = true ∧
      lowerChar '_' = ['_'] ∧ lowerChar '[' = ['['] ∧ lowerChar ']' = [']'] ∧
        lowerChar ' ' = [' '] := by
  decide

theorem blank_of_isGap {gap : List Char} (h : IsGap gap) :
    ∀ c ∈ gap, isBlank c = true ∧ lowerChar c = [c] := by
  obtain ⟨-, -, -, hblank, -, -, -, hlower⟩ := marks_settled
  rcases h with rfl | rfl
  · simp
  · simpa using ⟨hblank, hlower⟩

/-- Marks have no case, neither in front of a name nor behind it. -/
theorem startsCased_marks {gap : List Char} (h : IsGap gap) :
    startsCased ('_' :: gap).reverse = false ∧ startsCased (gap ++ ['[', ']']) = false := by
  rcases h with rfl | rfl
  · decide +kernel
  · decide +kernel

/-- An underscore before a name stands before the normalised name. -/
theorem normalize_underscore (e : String) :
    ∃ gap, IsGap gap ∧ (normalize ("_" ++ e)).toList = '_' :: (gap ++ (normalize e).toList) := by
  have hkept : outsideParens 0 ("_" ++ e).toList = '_' :: outsideParens 0 e.toList := by
    rw [String.toList_append]
    rfl
  obtain ⟨hblank, -, -, -, hlower, -⟩ := marks_settled
  obtain ⟨gap, hgap, hcollapsed⟩ := collapseBlanks_cons hblank (outsideParens 0 e.toList)
  have hself : ∀ c ∈ '_' :: gap, lowerChar c = [c] :=
    List.forall_mem_cons.mpr ⟨hlower, fun c hc => (blank_of_isGap hgap c hc).2⟩
  have hcased := (startsCased_marks hgap).1
  refine ⟨gap, hgap, ?_⟩
  rw [normalize_toList, normalize_toList, hkept, hcollapsed, ← List.cons_append,
    lowerChars_append_of_self hself, List.append_nil]
  have hbefore := lowerChars_append_before hcased [] (collapseBlanks (outsideParens 0 e.toList))
  rw [List.nil_append] at hbefore
  rw [hbefore, List.cons_append]

/-- Brackets behind a name stand behind the normalised name if no parenthesis is open there. -/
theorem normalize_brackets {e : String} (h : Balanced e.toList) :
    ∃ gap, IsGap gap ∧
      (normalize (e ++ "[]")).toList = (normalize e).toList ++ (gap ++ ['[', ']']) := by
  have hkept : outsideParens 0 (e ++ "[]").toList = outsideParens 0 e.toList ++ ['[', ']'] := by
    rw [String.toList_append, h.outsideParens_append]
    rfl
  obtain ⟨-, hblank, hblank', -, -, hlower, hlower', -⟩ := marks_settled
  have hfree : ∀ c ∈ ['[', ']'], isBlank c = false := by
    simp [hblank, hblank']
  obtain ⟨gap, hgap, hcollapsed⟩ :=
    collapseBlanks_append (List.cons_ne_nil _ _) hfree (outsideParens 0 e.toList)
  have hself : ∀ c ∈ gap ++ ['[', ']'], lowerChar c = [c] := by
    intro c hc
    rcases List.mem_append.mp hc with hc | hc
    · exact (blank_of_isGap hgap c hc).2
    · simp only [List.mem_cons, List.not_mem_nil, or_false] at hc
      rcases hc with rfl | rfl
      · exact hlower
      · exact hlower'
  have hcased := (startsCased_marks hgap).2
  refine ⟨gap, hgap, ?_⟩
  rw [normalize_toList, normalize_toList, hkept, hcollapsed, lowerChars_append hcased,
    lowerChars_eq_self hself]

/-! ## Elements -/

/-- What a mark leaves of a name is the element if it is more than blanks. -/
theorem arrayElement?_eq_some {name element : String} (cs : List Char)
    (hcs : dropLead? ['_'] name.toList = some cs ∨
      dropLead? ['_'] name.toList = none ∧ dropTail? ['[', ']'] name.toList = some cs)
    (htrim : trimChars cs = element.toList) (hne : element ≠ "") :
    arrayElement? .postgres name = some element := by
  unfold arrayElement?
  rcases hcs with hlead | ⟨hlead, htail⟩
  · simp [hlead, htrim, hne, String.ofList_toList]
  · simp [hlead, htail, htrim, hne, String.ofList_toList]

/-- A raw type that can be the element of an array: it has a name, which is that of no array. -/
structure IsElement (raw : String) : Prop where
  balanced : Balanced raw.toList
  named : normalize raw ≠ ""
  plain : arrayElement? .postgres (normalize raw) = none

/-- The element of a name with an underscore before it. -/
theorem arrayElement?_underscore {name n : String} {gap : List Char} (hgap : IsGap gap)
    (hn : IsTrimmed n.toList) (hne : n ≠ "") (hname : name.toList = '_' :: (gap ++ n.toList)) :
    arrayElement? .postgres name = some n := by
  apply arrayElement?_eq_some (gap ++ n.toList) _ _ hne
  · rw [hname]
    exact .inl (dropLead?_append ['_'] _)
  · have htrim := hn.trimChars_around gap [] (fun c hc => (blank_of_isGap hgap c hc).1) (by simp)
    rwa [List.append_nil] at htrim

/-- A name that starts as an array does, but is none, is the underscore alone. -/
theorem eq_underscore_of_arrayElement? {n : String} {cs : List Char} (hn : IsTrimmed n.toList)
    (hplain : arrayElement? .postgres n = none) (hcs : n.toList = '_' :: cs) : n = "_" := by
  have hblank : trimChars cs = [] := by
    by_contra hne
    have helement : String.ofList (trimChars cs) ≠ "" := by
      simpa [← String.toList_inj] using hne
    have hsome : arrayElement? .postgres n = some (String.ofList (trimChars cs)) := by
      apply arrayElement?_eq_some cs _ _ helement
      · rw [hcs]
        exact .inl (dropLead?_append ['_'] cs)
      · simp
    rw [hplain] at hsome
    cases hsome
  -- blanks behind the underscore would be blanks at the end of the name
  have hnil : cs = [] := by
    by_contra hne
    have hlast := hn.last (cs.getLast hne)
      (by rw [hcs, List.getLast?_cons_of_ne_nil hne, List.getLast?_eq_some_getLast hne]; rfl)
    rw [trimChars_eq_nil_iff.mp hblank _ (List.getLast_mem hne)] at hlast
    cases hlast
  rw [← String.toList_inj, hcs, hnil]
  rfl

/-- The element of a name with brackets behind it. The underscore takes the brackets for its
element. -/
theorem arrayElement?_brackets {name n : String} {gap : List Char} (hgap : IsGap gap)
    (hn : IsTrimmed n.toList) (hne : n ≠ "") (hplain : arrayElement? .postgres n = none)
    (hname : name.toList = n.toList ++ (gap ++ ['[', ']'])) :
    arrayElement? .postgres name = some n ∨ n = "_" ∧ arrayElement? .postgres name = some "[]" := by
  obtain ⟨c, cs, hcs⟩ := List.exists_cons_of_ne_nil (fun hnil => hne (String.toList_inj.mp hnil))
  by_cases hc : c = '_'
  · subst hc
    obtain rfl := eq_underscore_of_arrayElement? hn hplain hcs
    obtain ⟨-, hblank, hblank', -⟩ := marks_settled
    have htrimmed : IsTrimmed "[]".toList := by
      show IsTrimmed ['[', ']']
      exact ⟨by simpa using hblank, by simpa using hblank'⟩
    exact Or.inr ⟨rfl, arrayElement?_underscore hgap htrimmed (by decide) hname⟩
  · left
    apply arrayElement?_eq_some (n.toList ++ gap) _ _ hne
    · right
      constructor
      · rw [hname, hcs]
        simp [dropLead?, Ne.symm hc]
      · rw [hname, ← List.append_assoc]
        exact dropTail?_append ['[', ']'] _
    · exact hn.trimChars_around [] gap (by simp) fun c hc => (blank_of_isGap hgap c hc).1

end TypeName

namespace TypeTable

/-! ## Types -/

theorem mapType_of_element (t : TypeTable) {engine : Engine} {raw element : String}
    (h : TypeName.arrayElement? engine (TypeName.normalize raw) = some element) :
    t.mapType engine raw = t.arrayOf (t.scalar engine element) := by
  simp only [mapType, h]

theorem mapType_of_plain (t : TypeTable) {engine : Engine} {raw : String}
    (h : TypeName.arrayElement? engine (TypeName.normalize raw) = none) :
    t.mapType engine raw = t.scalar engine (TypeName.normalize raw) := by
  simp only [mapType, h]

def tables : List TypeTable := [java, csharp, typescript, zod]

/-- No name of a table looks like an array, and the marks alone are no names. -/
theorem names_plain : ∀ t ∈ tables,
    "_" ∉ t.names .postgres ∧ "[]" ∉ t.names .postgres ∧
      ∀ engine ∈ [Engine.mySql, Engine.sqlServer],
        ∀ name ∈ t.names engine, TypeName.arrayElement? .postgres name = none := by
  decide +kernel

theorem arrayOf_union {type : String} (h : '|' ∈ type.toList) :
    typescript.arrayOf type = "(" ++ type ++ ")[]" :=
  if_pos (List.contains_iff_mem.mpr h)

/-- An array type stands around that of its element, and the unknown type has none of these marks
around it. -/
theorem arrayOf_around {t : TypeTable} (ht : t ∈ tables) (type : String) :
    ∃ lead trail : String, t.arrayOf type = lead ++ type ++ trail ∧ trail.toList ≠ [] ∧
      ¬ (lead.toList <+: t.unknown.toList ∧ trail.toList <:+ t.unknown.toList) := by
  simp only [tables, List.mem_cons, List.not_mem_nil, or_false] at ht
  rcases ht with rfl | rfl | rfl | rfl
  · exact ⟨"", "[]", by simp [java, bracketed], by decide, by decide⟩
  · exact ⟨"", "[]", by simp [csharp, bracketed], by decide, by decide⟩
  · by_cases hunion : '|' ∈ type.toList
    · exact ⟨"(", ")[]", arrayOf_union hunion, by decide, by decide⟩
    · exact ⟨"", "[]", by simp [typescript, bracketed, hunion], by decide, by decide⟩
  · exact ⟨"array(z.", ")", rfl, by decide, by decide⟩

theorem arrayOf_ne_self {t : TypeTable} (ht : t ∈ tables) (type : String) :
    t.arrayOf type ≠ type := by
  obtain ⟨lead, trail, heq, htrail, -⟩ := arrayOf_around ht type
  intro hsame
  have hlength := congrArg (fun s : String => s.toList.length) (heq.symm.trans hsame)
  have hpos := List.length_pos_iff.mpr htrail
  simp only [String.toList_append, List.length_append] at hlength
  omega

theorem arrayOf_ne_unknown {t : TypeTable} (ht : t ∈ tables) (type : String) :
    t.arrayOf type ≠ t.unknown := by
  obtain ⟨lead, trail, heq, -, hmarks⟩ := arrayOf_around ht type
  intro hsame
  apply hmarks
  simp only [← hsame, heq, String.toList_append]
  constructor
  · rw [List.append_assoc]
    exact List.prefix_append _ _
  · exact List.suffix_append _ _

/-- A name that looks like an array has no entry outside Postgres. -/
theorem scalar_of_arrayElement? {t : TypeTable} (ht : t ∈ tables) {engine : Engine}
    (hengine : engine ≠ .postgres) {name element : String}
    (h : TypeName.arrayElement? .postgres name = some element) :
    t.scalar engine name = t.unknown := by
  apply scalar_of_not_mem
  intro hname
  have hother : engine ∈ [Engine.mySql, Engine.sqlServer] := by
    cases engine with
    | postgres => exact absurd rfl hengine
    | mySql => decide
    | sqlServer => decide
  rw [(names_plain t ht).2.2 engine hother name hname] at h
  cases h

/-! ## Both spellings -/

theorem mapType_underscore (t : TypeTable) {e : String} (he : TypeName.IsElement e) :
    t.mapType .postgres ("_" ++ e) = t.arrayOf (t.mapType .postgres e) := by
  obtain ⟨gap, hgap, hname⟩ := TypeName.normalize_underscore e
  have helement :=
    TypeName.arrayElement?_underscore hgap (TypeName.isTrimmed_normalize e) he.named hname
  rw [mapType_of_element t helement, mapType_of_plain t he.plain]

theorem mapType_brackets {t : TypeTable} (ht : t ∈ tables) {e : String}
    (he : TypeName.IsElement e) :
    t.mapType .postgres (e ++ "[]") = t.arrayOf (t.mapType .postgres e) := by
  obtain ⟨gap, hgap, hname⟩ := TypeName.normalize_brackets he.balanced
  rw [mapType_of_plain t he.plain]
  rcases TypeName.arrayElement?_brackets hgap (TypeName.isTrimmed_normalize e) he.named he.plain
    hname with helement | ⟨hmark, helement⟩
  · rw [mapType_of_element t helement]
  · -- the element is another name, but neither has an entry
    obtain ⟨hunderscore, hbrackets, -⟩ := names_plain t ht
    rw [mapType_of_element t helement, hmark, scalar_of_not_mem hunderscore,
      scalar_of_not_mem hbrackets]

/-- **The two spellings of a Postgres array mean the same type**: the array type over what the
element maps to. In TypeScript a union gets parentheses, so that the type reads as an array over
the whole type of its element. The other engines have scalar types alone; what looks like an array
there is unknown. -/
theorem array_spellings_agree :
    (∀ t ∈ tables, ∀ e, TypeName.IsElement e →
      t.mapType .postgres ("_" ++ e) = t.arrayOf (t.mapType .postgres e) ∧
      t.mapType .postgres (e ++ "[]") = t.arrayOf (t.mapType .postgres e)) ∧
    (∀ e, TypeName.IsElement e →
      ('|' ∈ (typescript.mapType .postgres e).toList →
        typescript.mapType .postgres (e ++ "[]") =
          "(" ++ typescript.mapType .postgres e ++ ")[]") ∧
      ∃ type ∈ TypeExpr.ofText? (typescript.mapType .postgres e),
        TypeExpr.ofText? (typescript.mapType .postgres (e ++ "[]")) = some (.array type)) ∧
    (∀ t ∈ tables, ∀ engine, engine ≠ .postgres → ∀ raw,
      t.mapType engine raw = (t.scalar? engine (TypeName.normalize raw)).getD t.unknown ∧
      t.mapType engine raw ≠ t.arrayOf (t.mapType engine raw) ∧
      ∀ element, TypeName.arrayElement? .postgres (TypeName.normalize raw) = some element →
        t.mapType engine raw = t.unknown ∧
        ∀ type, t.mapType engine raw ≠ t.arrayOf type) := by
  refine ⟨?_, ?_, ?_⟩
  · intro t ht e he
    exact ⟨mapType_underscore t he, mapType_brackets ht he⟩
  · intro e he
    rw [mapType_brackets (by simp [tables]) he]
    constructor
    · exact arrayOf_union
    · rw [mapType_of_plain typescript he.plain]
      exact TypeExpr.exists_ofText?_scalar .postgres _
  -- without array types the name itself is looked up, and no name in a table looks like an array
  · intro t ht engine hengine raw
    have hplain : t.mapType engine raw = t.scalar engine (TypeName.normalize raw) := by
      apply mapType_of_plain
      cases engine with
      | postgres => exact absurd rfl hengine
      | mySql => rfl
      | sqlServer => rfl
    refine ⟨hplain, (arrayOf_ne_self ht _).symm, ?_⟩
    intro element helement
    have hunknown := hplain.trans (scalar_of_arrayElement? ht hengine helement)
    refine ⟨hunknown, ?_⟩
    intro type
    rw [hunknown]
    exact (arrayOf_ne_unknown ht type).symm

/-- Moments in a loose spelling, the underscore itself, and an array that MySQL does not have. -/
theorem moment_arrays_agree :
    TypeName.IsElement "Timestamp(6)  With Time Zone " ∧ TypeName.IsElement "_" ∧
    typescript.mapType .postgres "_Timestamp(6)  With Time Zone " = "(string | Date)[]" ∧
    typescript.mapType .postgres "Timestamp(6)  With Time Zone []" = "(string | Date)[]" ∧
    java.mapType .postgres "_[]" = "Object[]" ∧
    zod.mapType .mySql "_int" = "any()" := by
  have hmoment : TypeName.IsElement "Timestamp(6)  With Time Zone " :=
    ⟨by decide +kernel, by decide +kernel, by decide +kernel⟩
  have hmark : TypeName.IsElement "_" := ⟨by decide +kernel, by decide +kernel, by decide +kernel⟩
  have htype : typescript.mapType .postgres "Timestamp(6)  With Time Zone " = "string | Date" := by
    decide +kernel
  obtain ⟨hspellings, hunions, hothers⟩ := array_spellings_agree
  refine ⟨hmoment, hmark, ?_, ?_, ?_, ?_⟩
  · have hunderscore := (hspellings typescript (by simp [tables]) _ hmoment).1
    rw [htype] at hunderscore
    exact hunderscore
  · have hbrackets := (hunions _ hmoment).1 (by rw [htype]; decide +kernel)
    rw [htype] at hbrackets
    exact hbrackets
  · have hbrackets := (hspellings java (by simp [tables]) _ hmark).2
    have hunknown : java.mapType .postgres "_" = "Object" := by decide +kernel
    rw [hunknown] at hbrackets
    exact hbrackets
  · exact ((hothers zod (by simp [tables]) .mySql (by decide) "_int").2.2 "int"
      (by decide +kernel)).1

end TypeTable

end SchemaCodegen
