import SchemaCodegen.Proofs.Naming.Characters
import SchemaCodegen.Proofs.Text.Ascii
import SchemaCodegen.Proofs.Text.Segments

/-!
# Case conversion part by part

A name in Pascal or camel case is a text of its parts, one after the other, and
an underscore only ends one part and starts another. So the form of two names
that an underscore joins is made of the forms of the two, with the second in
Pascal case unless the first has no part, and extra underscores change nothing.
Within ASCII the two cases differ in the first letter alone, and neither sees
whether a name is written in capitals.
-/

namespace SchemaCodegen.Naming

open Text

variable {cs ds part : List Char}

/-! ## Parts -/

@[simp]
theorem parts_append (cs ds : List Char) : parts (cs ++ '_' :: ds) = parts cs ++ parts ds :=
  segments_append rfl cs ds

theorem parts_of_free (hcs : cs ≠ []) (h : '_' ∉ cs) : parts cs = [cs] := by
  apply segments_of_free hcs
  intro c hc
  rw [beq_eq_false_iff_ne]
  rintro rfl
  exact h hc

theorem parts_eq_nil_iff : parts cs = [] ↔ ∀ c ∈ cs, c = '_' := by
  simp only [parts, segments_eq_nil_iff, beq_iff_eq]

theorem not_mem_of_mem_parts (h : part ∈ parts cs) : '_' ∉ part := by
  intro hmem
  have hfree := free_of_mem_segments h '_' hmem
  cases hfree

theorem isAscii_of_mem_parts (hcs : IsAscii cs) (h : part ∈ parts cs) : IsAscii part :=
  fun c hc => hcs c (mem_of_mem_segments h hc)

/-- Only the normal forms of the parts count in Pascal case. -/
theorem pascalChars_eq (cs : List Char) :
    pascalChars cs = ((parts cs).map normalizePart).flatMap upperFirst := by
  rw [pascalChars, List.flatMap_map]
  rfl

/-- Only the normal forms of the parts count in camel case. -/
theorem camelChars_eq (cs : List Char) :
    camelChars cs =
      match (parts cs).map normalizePart with
      | [] => []
      | first :: rest => lowerFirst first ++ rest.flatMap upperFirst := by
  rw [camelChars]
  cases parts cs with
  | nil => rfl
  | cons first rest =>
      simp only [List.map_cons, List.flatMap_map]
      rfl

theorem pascalChars_congr (h : (parts cs).map normalizePart = (parts ds).map normalizePart) :
    pascalChars cs = pascalChars ds := by
  rw [pascalChars_eq, pascalChars_eq, h]

theorem camelChars_congr (h : (parts cs).map normalizePart = (parts ds).map normalizePart) :
    camelChars cs = camelChars ds := by
  rw [camelChars_eq, camelChars_eq, h]

/-! ## Joined names -/

theorem pascalChars_append (cs ds : List Char) :
    pascalChars (cs ++ '_' :: ds) = pascalChars cs ++ pascalChars ds := by
  rw [pascalChars, parts_append, List.flatMap_append]
  rfl

theorem camelChars_append_of_parts (h : parts cs ≠ []) (ds : List Char) :
    camelChars (cs ++ '_' :: ds) = camelChars cs ++ pascalChars ds := by
  rw [camelChars, camelChars, parts_append]
  cases hparts : parts cs with
  | nil => exact absurd hparts h
  | cons first rest =>
      simp only [List.cons_append, List.flatMap_append, List.append_assoc]
      rfl

theorem camelChars_append_of_no_parts (h : parts cs = []) (ds : List Char) :
    camelChars (cs ++ '_' :: ds) = camelChars ds := by
  apply camelChars_congr
  simp [h]

/-- A conversion for which underscores do nothing but separate. -/
structure SeparatesOnly (convert : String → String) : Prop where
  leading : ∀ name, convert ("_" ++ name) = convert name
  trailing : ∀ name, convert (name ++ "_") = convert name
  repeated : ∀ a b, convert (a ++ "__" ++ b) = convert (a ++ "_" ++ b)

/-- Names are converted alike if their parts are the same. -/
theorem separatesOnly_of_parts {convert : String → String}
    (h : ∀ a b : String, parts a.toList = parts b.toList → convert a = convert b) :
    SeparatesOnly convert where
  leading name := by
    apply h
    rw [String.toList_append]
    exact parts_append [] name.toList
  trailing name := by
    apply h
    rw [String.toList_append]
    exact (parts_append name.toList []).trans (List.append_nil _)
  repeated a b := by
    apply h
    simp only [String.toList_append, List.append_assoc]
    exact (parts_append a.toList ('_' :: b.toList)).trans
      ((congrArg _ (parts_append [] b.toList)).trans (parts_append a.toList b.toList).symm)

theorem separatesOnly_pascal : SeparatesOnly pascal :=
  separatesOnly_of_parts fun _ _ h =>
    congrArg String.ofList (pascalChars_congr (congrArg (List.map normalizePart) h))

theorem separatesOnly_camel : SeparatesOnly camel :=
  separatesOnly_of_parts fun _ _ h =>
    congrArg String.ofList (camelChars_congr (congrArg (List.map normalizePart) h))

/-! ## No underscores -/

theorem caseless_underscore : Caseless '_' := caseless_of_mem (by decide)

theorem not_mem_pascalChars (cs : List Char) : '_' ∉ pascalChars cs := by
  intro hmem
  obtain ⟨part, hpart, hform⟩ := List.mem_flatMap.mp hmem
  exact not_mem_capitalPart caseless_underscore (not_mem_of_mem_parts hpart) hform

theorem not_mem_camelChars (cs : List Char) : '_' ∉ camelChars cs := by
  rw [camelChars]
  cases hparts : parts cs with
  | nil => exact List.not_mem_nil
  | cons first rest =>
      have hfree : ∀ part ∈ first :: rest, '_' ∉ part := fun part hpart =>
        not_mem_of_mem_parts (hparts ▸ hpart)
      rw [List.mem_append]
      rintro (hmem | hmem)
      · exact not_mem_smallPart caseless_underscore (hfree first List.mem_cons_self) hmem
      · obtain ⟨part, hpart, hform⟩ := List.mem_flatMap.mp hmem
        exact not_mem_capitalPart caseless_underscore
          (hfree part (List.mem_cons_of_mem _ hpart)) hform

/-! ## ASCII names -/

/-- A part in ASCII has the same letters behind its first in either form. -/
theorem exists_forms_of_ascii (hpart : part ≠ []) (h : IsAscii part) :
    ∃ (c : Char) (rest : List Char), c.toNat < 128 ∧ smallPart part = c.toLower :: rest ∧
      capitalPart part = c.toUpper :: rest := by
  have hnormal : ∃ (c : Char) (rest : List Char), c.toNat < 128 ∧
      normalizePart part = c :: rest := by
    obtain ⟨c, rest, rfl⟩ := List.exists_cons_of_ne_nil hpart
    have hc := h c List.mem_cons_self
    rw [normalizePart, lowerChars_of_ascii h]
    split
    · exact ⟨c, rest, hc, rfl⟩
    · exact ⟨c.toLower, rest.map Char.toLower, (asciiForms hc).toLower_ascii, rfl⟩
  obtain ⟨c, rest, hc, hnormal⟩ := hnormal
  refine ⟨c, rest, hc, ?_, ?_⟩
  · rw [smallPart, hnormal, lowerFirst, lowerChar_eq_toLower hc]
    rfl
  · rw [capitalPart, hnormal, upperFirst, upperChar_eq_toUpper hc]
    rfl

/-- Two forms of a name that differ in the first letter at most, which is no capital in one of them
and no small letter in the other. -/
structure DifferInFirst (small capital : String) : Prop where
  length_eq : small.length = capital.length
  tail_eq : small.toList.tail = capital.toList.tail
  first_of_small : ∀ c ∈ small.toList.head?, uppercase.contains c = false
  first_of_capital : ∀ c ∈ capital.toList.head?, lowercase.contains c = false

theorem differInFirst_of_ascii {name : String} (h : IsAscii name.toList) :
    DifferInFirst (camel name) (pascal name) := by
  cases hparts : parts name.toList with
  | nil =>
      have hcamel : camel name = "" := by rw [camel, camelChars, hparts]
      have hpascal : pascal name = "" := by rw [pascal, pascalChars, hparts]; rfl
      rw [hcamel, hpascal]
      exact ⟨rfl, rfl, by simp, by simp⟩
  | cons first others =>
      have hfirst : first ∈ parts name.toList := hparts ▸ List.mem_cons_self
      obtain ⟨c, rest, hc, hsmall, hcapital⟩ :=
        exists_forms_of_ascii (ne_nil_of_mem_segments hfirst) (isAscii_of_mem_parts h hfirst)
      have hcamel : (camel name).toList = c.toLower :: (rest ++ others.flatMap capitalPart) := by
        rw [camel, String.toList_ofList, camelChars, hparts]
        simp only [hsmall, List.cons_append]
      have hpascal : (pascal name).toList = c.toUpper :: (rest ++ others.flatMap capitalPart) := by
        simp [pascal, pascalChars, hparts, hcapital]
      -- all that differs is the case of the first letter
      refine ⟨?_, ?_, ?_, ?_⟩
      · simp only [← String.length_toList, hcamel, hpascal, List.length_cons]
      · simp [hcamel, hpascal]
      · intro d hd
        rw [hcamel, List.head?_cons, Option.mem_some_iff] at hd
        rw [← hd, uppercase_contains_of_ascii (asciiForms hc).toLower_ascii]
        exact (asciiForms hc).isUpper_toLower
      · intro d hd
        rw [hpascal, List.head?_cons, Option.mem_some_iff] at hd
        rw [← hd, lowercase_contains_of_ascii (asciiForms hc).toUpper_ascii]
        exact (asciiForms hc).isLower_toUpper

/-- A part in one case alone is put into lower case. -/
theorem normalizePart_of_ascii (h : IsAscii part) :
    normalizePart (part.map Char.toLower) = part.map Char.toLower ∧
      normalizePart (part.map Char.toUpper) = part.map Char.toLower := by
  have hlower : mixesCases (part.map Char.toLower) = false := by
    apply mixesCases_eq_false_of_capital_free (isAscii_map_toLower h)
    intro d hd
    obtain ⟨c, hc, rfl⟩ := List.mem_map.mp hd
    exact (asciiForms (h c hc)).isUpper_toLower
  have hupper : mixesCases (part.map Char.toUpper) = false := by
    apply mixesCases_eq_false_of_small_free (isAscii_map_toUpper h)
    intro d hd
    obtain ⟨c, hc, rfl⟩ := List.mem_map.mp hd
    exact (asciiForms (h c hc)).isLower_toUpper
  constructor
  · rw [normalizePart, hlower, lowerChars_of_ascii (isAscii_map_toLower h), List.map_map]
    exact List.map_congr_left fun c hc => (asciiForms (h c hc)).toLower_toLower
  · rw [normalizePart, hupper, lowerChars_of_ascii (isAscii_map_toUpper h), List.map_map]
    exact List.map_congr_left fun c hc => (asciiForms (h c hc)).toLower_toUpper

/-- A name in capitals has the same normal parts as the name in small letters. -/
theorem normal_parts_of_ascii (h : IsAscii cs) :
    (parts (cs.map Char.toUpper)).map normalizePart =
      (parts (cs.map Char.toLower)).map normalizePart := by
  have hupper : parts (cs.map Char.toUpper) = (parts cs).map (List.map Char.toUpper) :=
    segments_map fun c hc => by
      rw [Bool.eq_iff_iff, beq_iff_eq, beq_iff_eq]
      exact (asciiForms (h c hc)).underscore_iff.2
  have hlower : parts (cs.map Char.toLower) = (parts cs).map (List.map Char.toLower) :=
    segments_map fun c hc => by
      rw [Bool.eq_iff_iff, beq_iff_eq, beq_iff_eq]
      exact (asciiForms (h c hc)).underscore_iff.1
  simp only [hupper, hlower, List.map_map]
  apply List.map_congr_left
  intro part hpart
  obtain ⟨hsmall, hcapital⟩ := normalizePart_of_ascii (isAscii_of_mem_parts h hpart)
  exact hcapital.trans hsmall.symm

/-! ## Conversion -/

/-- **Names are converted part by part.** An underscore between two names joins their forms, and
no form has an underscore. Within ASCII camel and Pascal case differ in the first letter alone,
and a name in capitals is converted like the name in small letters. -/
theorem conversion_by_parts (a b : String) :
    pascal (a ++ "_" ++ b) = pascal a ++ pascal b ∧
    ((∃ c ∈ a.toList, c ≠ '_') → camel (a ++ "_" ++ b) = camel a ++ pascal b) ∧
    ((∀ c ∈ a.toList, c = '_') → camel (a ++ "_" ++ b) = camel b) ∧
    '_' ∉ (pascal a).toList ∧ '_' ∉ (camel a).toList ∧
    SeparatesOnly pascal ∧ SeparatesOnly camel ∧
    (IsAscii a.toList →
      DifferInFirst (camel a) (pascal a) ∧
      pascal a.toUpper = pascal a.toLower ∧ camel a.toUpper = camel a.toLower) := by
  have hjoined : (a ++ "_" ++ b).toList = a.toList ++ '_' :: b.toList := by
    simp [String.toList_append]
  refine ⟨?_, ?_, ?_, ?_, ?_, separatesOnly_pascal, separatesOnly_camel, ?_⟩
  · rw [pascal, hjoined, pascalChars_append, String.ofList_append]
    rfl
  -- the first part of `b` is capitalised if one of `a` stands before it
  · rintro ⟨c, hc, hne⟩
    have hparts : parts a.toList ≠ [] := fun hnil => hne (parts_eq_nil_iff.mp hnil c hc)
    rw [camel, hjoined, camelChars_append_of_parts hparts, String.ofList_append]
    rfl
  · intro hall
    rw [camel, hjoined, camelChars_append_of_no_parts (parts_eq_nil_iff.mpr hall)]
    rfl
  · rw [pascal, String.toList_ofList]
    exact not_mem_pascalChars a.toList
  · rw [camel, String.toList_ofList]
    exact not_mem_camelChars a.toList
  · intro hascii
    have hnormal := normal_parts_of_ascii hascii
    have hupper : a.toUpper.toList = a.toList.map Char.toUpper := String.toList_map
    have hlower : a.toLower.toList = a.toList.map Char.toLower := String.toList_map
    refine ⟨differInFirst_of_ascii hascii, ?_, ?_⟩
    · rw [pascal, pascal, hupper, hlower, pascalChars_congr hnormal]
    · rw [camel, camel, hupper, hlower, camelChars_congr hnormal]

theorem unit_price_by_parts :
    (∃ c ∈ "unit_PRICE".toList, c ≠ '_') ∧ (∀ c ∈ "__".toList, c = '_') ∧
    IsAscii "unit_PRICE".toList ∧
    camel ("unit_PRICE" ++ "_" ++ "eur") = camel "unit_PRICE" ++ pascal "eur" ∧
    camel ("unit_PRICE" ++ "_" ++ "eur") = "unitPriceEur" ∧
    camel ("__" ++ "_" ++ "eur") = camel "eur" ∧
    DifferInFirst (camel "unit_PRICE") (pascal "unit_PRICE") ∧
    pascal "unit_PRICE".toUpper = pascal "unit_PRICE".toLower := by
  have hpart : ∃ c ∈ "unit_PRICE".toList, c ≠ '_' := ⟨'u', by decide, by decide⟩
  have hnone : ∀ c ∈ "__".toList, c = '_' := by simp
  have hascii : IsAscii "unit_PRICE".toList := by
    have hall : ("unit_PRICE".toList.all fun c => decide (c.toNat < 128)) = true := by decide
    exact fun c hc => of_decide_eq_true (List.all_eq_true.mp hall c hc)
  obtain ⟨-, hjoined, -, -, -, -, -, hwithin⟩ := conversion_by_parts "unit_PRICE" "eur"
  obtain ⟨-, -, hextra, -⟩ := conversion_by_parts "__" "eur"
  obtain ⟨hfirst, hpascal, -⟩ := hwithin hascii
  exact ⟨hpart, hnone, hascii, hjoined hpart, by decide +kernel, hextra hnone, hfirst, hpascal⟩

end SchemaCodegen.Naming
