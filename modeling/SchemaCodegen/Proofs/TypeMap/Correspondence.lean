import SchemaCodegen.Proofs.TypeMap.Expressions

/-!
# The type tables side by side

All tables look up the same scalar name, and an array is one in all of them.
The Java and the C# table have entries for the same names, every name of theirs
has a schema, and every name with a schema has a TypeScript type. A schema
infers a type of its own; the interface of the same column admits it: it is a
member of the union there, or one of the two says nothing about its values.
-/

namespace SchemaCodegen

namespace TypeTable

/-! ## Known names -/

def names (t : TypeTable) (engine : Engine) : List String := (t.entries engine).flatMap (·.1)

theorem isSome_scalar?_iff (t : TypeTable) (engine : Engine) (name : String) :
    (t.scalar? engine name).isSome = true ↔ name ∈ t.names engine := by
  rw [scalar?, Option.isSome_map, List.find?_isSome, names, List.mem_flatMap]
  simp only [List.contains_iff_mem]

theorem scalar?_eq_none_iff (t : TypeTable) (engine : Engine) (name : String) :
    t.scalar? engine name = none ↔ name ∉ t.names engine := by
  rw [← isSome_scalar?_iff, Bool.not_eq_true, Option.isSome_eq_false_iff, Option.isNone_iff_eq_none]

theorem scalar_of_not_mem {t : TypeTable} {engine : Engine} {name : String}
    (h : name ∉ t.names engine) : t.scalar engine name = t.unknown := by
  rw [scalar, (scalar?_eq_none_iff t engine name).mpr h, Option.getD_none]

/-- Java and C# know the same names, in other groups. -/
theorem mem_names_csharp_iff (engine : Engine) (name : String) :
    name ∈ csharp.names engine ↔ name ∈ java.names engine := by
  have hperm : (csharp.names engine).isPerm (java.names engine) = true := by
    cases engine <;> decide
  exact (List.isPerm_iff.mp hperm).mem_iff

theorem mem_names_zod_of_java : ∀ engine, ∀ name ∈ java.names engine, name ∈ zod.names engine := by
  intro engine
  cases engine <;> decide

theorem mem_names_typescript_of_zod :
    ∀ engine, ∀ name ∈ zod.names engine, name ∈ typescript.names engine := by
  intro engine
  cases engine <;> decide

/-! ## The unknown type -/

/-- The unknown type and its array form tell that a name has no entry. -/
structure MarksUnknown (t : TypeTable) : Prop where
  arrayOf_eq : t.arrayOf = bracketed
  entries_ne : ∀ engine, ∀ entry ∈ t.entries engine,
    entry.2 ≠ t.unknown ∧ entry.2 ≠ bracketed t.unknown
  unknown_not_array : ¬ ['[', ']'] <:+ t.unknown.toList

theorem java_marksUnknown : java.MarksUnknown where
  arrayOf_eq := rfl
  entries_ne engine := by cases engine <;> decide
  unknown_not_array := by decide

theorem csharp_marksUnknown : csharp.MarksUnknown where
  arrayOf_eq := rfl
  entries_ne engine := by cases engine <;> decide
  unknown_not_array := by decide

@[simp] theorem toList_bracketed (s : String) : (bracketed s).toList = s.toList ++ ['[', ']'] :=
  String.toList_append

theorem bracketed_inj {s t : String} : bracketed s = bracketed t ↔ s = t := by
  rw [← String.toList_inj, toList_bracketed, toList_bracketed, List.append_cancel_right_eq,
    String.toList_inj]

namespace MarksUnknown

variable {t : TypeTable} (h : t.MarksUnknown)
include h

theorem bracketed_ne_unknown (s : String) : bracketed s ≠ t.unknown := by
  intro heq
  apply h.unknown_not_array
  rw [← heq, toList_bracketed]
  exact List.suffix_append _ _

/-- A scalar type is the unknown one only without an entry, and never an array over it. -/
theorem scalar_eq_unknown_iff (engine : Engine) (name : String) :
    (t.scalar engine name = t.unknown ↔ t.scalar? engine name = none) ∧
      t.scalar engine name ≠ bracketed t.unknown := by
  unfold scalar
  cases hfound : t.scalar? engine name with
  | none =>
      refine ⟨iff_of_true rfl rfl, ?_⟩
      exact (h.bracketed_ne_unknown t.unknown).symm
  | some type =>
      rw [scalar?, Option.map_eq_some_iff] at hfound
      obtain ⟨entry, hfind, rfl⟩ := hfound
      obtain ⟨hscalar, harray⟩ := h.entries_ne engine entry (List.mem_of_find?_eq_some hfind)
      exact ⟨iff_of_false hscalar (by simp), harray⟩

theorem mapType_eq_unknown_iff (engine : Engine) (raw : String) :
    t.mapType engine raw = t.unknown ↔
      TypeName.isArray engine raw = false ∧
        t.scalar? engine (TypeName.scalarName engine raw) = none := by
  rw [mapType_eq, h.arrayOf_eq]
  cases TypeName.isArray engine raw with
  | true =>
      rw [if_pos rfl]
      exact iff_of_false (h.bracketed_ne_unknown _) (by simp)
  | false =>
      rw [if_neg (by simp), (h.scalar_eq_unknown_iff engine _).1]
      simp

theorem mapType_eq_array_iff (engine : Engine) (raw : String) :
    t.mapType engine raw = bracketed t.unknown ↔
      TypeName.isArray engine raw = true ∧
        t.scalar? engine (TypeName.scalarName engine raw) = none := by
  rw [mapType_eq, h.arrayOf_eq]
  cases TypeName.isArray engine raw with
  | true =>
      rw [if_pos rfl, bracketed_inj, (h.scalar_eq_unknown_iff engine _).1]
      simp
  | false =>
      rw [if_neg (by simp)]
      exact iff_of_false (h.scalar_eq_unknown_iff engine _).2 (by simp)

/-- A type is the unknown one or an array over it exactly if its scalar name has no entry. -/
theorem mapType_mem_iff (engine : Engine) (raw : String) :
    t.mapType engine raw ∈ [t.unknown, bracketed t.unknown] ↔
      t.scalar? engine (TypeName.scalarName engine raw) = none := by
  rw [List.mem_cons, List.mem_singleton, h.mapType_eq_unknown_iff, h.mapType_eq_array_iff,
    ← or_and_right]
  cases TypeName.isArray engine raw <;> simp

end MarksUnknown

end TypeTable

/-! ## Inferred types -/

@[simp]
theorem Text.dropLead?_append (lead cs : List Char) : dropLead? lead (lead ++ cs) = some cs := by
  have hlead : lead.isPrefixOf (lead ++ cs) = true :=
    List.isPrefixOf_iff_prefix.mpr (List.prefix_append lead cs)
  rw [dropLead?, if_pos hlead, List.drop_left]

@[simp]
theorem Text.dropTail?_append (tail cs : List Char) : dropTail? tail (cs ++ tail) = some cs := by
  simp [dropTail?]

namespace TypeExpr

/-- The types that a union is made of. -/
def alternatives : TypeExpr → List TypeExpr
  | union left right => left.alternatives ++ right.alternatives
  | type => [type]

def isArray : TypeExpr → Bool
  | array _ => true
  | _ => false

/-- What an array holds. A type that is no array stands for itself. -/
def element : TypeExpr → TypeExpr
  | array element => element
  | type => type

/-- What scalar schemas infer. -/
def inferences : List (String × String) :=
  [("number()", "number"), ("string()", "string"), ("string().uuid()", "string"),
   ("boolean()", "boolean"), ("date()", "Date"), ("instanceof(Uint8Array)", "Uint8Array"),
   ("record(z.string(), z.any())", "Record<string, any>"), ("any()", "any")]

/-- What a schema infers: a scalar type, or an array over one. -/
def ofZod? (schema : String) : Option TypeExpr :=
  match (Text.dropLead? "array(z.".toList schema.toList).bind (Text.dropTail? [')']) with
  | some element =>
    (inferences.lookup (String.ofList element)).map fun type => .array (.name type)
  | none => (inferences.lookup schema).map .name

theorem ofZod?_arrayOf (element : String) :
    ofZod? (TypeTable.zod.arrayOf element) =
      (inferences.lookup element).map fun type => .array (.name type) := by
  have htext : (TypeTable.zod.arrayOf element).toList =
      "array(z.".toList ++ (element.toList ++ [')']) := by
    simp [TypeTable.zod]
  rw [ofZod?, htext, Text.dropLead?_append, Option.bind_some, Text.dropTail?_append]
  simp only [String.ofList_toList]

/-- Both are arrays or neither is, and the inferred type is in the union, unless one of the two is
`any`. -/
def Admits (type inferred : TypeExpr) : Prop :=
  type.isArray = inferred.isArray ∧
    ((∀ alternative ∈ inferred.element.alternatives,
        alternative ∈ type.element.alternatives) ∨
      type.element = .name "any" ∨ inferred.element = .name "any")

instance (type inferred : TypeExpr) : Decidable (Admits type inferred) :=
  inferInstanceAs (Decidable (_ ∧ _))

end TypeExpr

namespace TypeTable

/-- The schema infers a type, and the TypeScript type reads as one that admits it. -/
def Inferable (schema type : String) : Prop :=
  ∃ inferred ∈ TypeExpr.ofZod? schema, ∃ declared ∈ TypeExpr.ofText? type,
    declared.Admits inferred

instance (schema type : String) : Decidable (Inferable schema type) :=
  inferInstanceAs (Decidable (∃ inferred ∈ TypeExpr.ofZod? schema, _))

def counterparts : List (String × String) :=
  [("number()", "number"), ("string()", "string"), ("string().uuid()", "string"),
   ("boolean()", "boolean"), ("date()", "string | Date"), ("string()", "string | Date"),
   ("instanceof(Uint8Array)", "Uint8Array"),
   ("record(z.string(), z.any())", "Record<string, any>"), ("any()", "Record<string, any>"),
   ("any()", "string"), ("any()", "any")]

theorem mem_counterparts_of_mem_names : ∀ engine, ∀ name ∈ typescript.names engine,
    (zod.scalar engine name, typescript.scalar engine name) ∈ counterparts := by
  intro engine
  cases engine <;> decide +kernel

/-- A name without a TypeScript type has no schema either, so both are unknown. -/
theorem mem_counterparts (engine : Engine) (name : String) :
    (zod.scalar engine name, typescript.scalar engine name) ∈ counterparts := by
  by_cases hname : name ∈ typescript.names engine
  · exact mem_counterparts_of_mem_names engine name hname
  · have hschema : name ∉ zod.names engine :=
      fun h => hname (mem_names_typescript_of_zod engine name h)
    rw [scalar_of_not_mem hname, scalar_of_not_mem hschema]
    decide

theorem inferable_of_mem_counterparts : ∀ pair ∈ counterparts, Inferable pair.1 pair.2 := by
  decide

theorem inferable_arrayOf_of_mem_counterparts {pair : String × String} (h : pair ∈ counterparts) :
    Inferable (zod.arrayOf pair.1) (typescript.arrayOf pair.2) := by
  have hadmits : ∀ pair ∈ counterparts, ∃ inferred ∈ TypeExpr.inferences.lookup pair.1,
      ∃ declared ∈ TypeExpr.ofText? (typescript.arrayOf pair.2),
        declared.Admits (.array (.name inferred)) := by
    decide
  obtain ⟨inferred, hlookup, hadmitted⟩ := hadmits pair h
  refine ⟨.array (.name inferred), ?_, hadmitted⟩
  rw [TypeExpr.ofZod?_arrayOf, Option.mem_def.mp hlookup]
  rfl

theorem inferable_mapType (engine : Engine) (raw : String) :
    Inferable (zod.mapType engine raw) (typescript.mapType engine raw) := by
  have hpair := mem_counterparts engine (TypeName.scalarName engine raw)
  have hscalar := inferable_of_mem_counterparts _ hpair
  have harray := inferable_arrayOf_of_mem_counterparts hpair
  rw [mapType_eq, mapType_eq]
  split
  · exact harray
  · exact hscalar

/-- **The type tables agree.** A type is unknown in Java exactly if it is in C#, which is if its
scalar name has no entry. A name with a Java type has a schema, and a name with a schema has a
TypeScript type. What the schema of a type infers is admitted by its TypeScript type. -/
theorem type_tables_agree (engine : Engine) (raw : String) :
    (java.mapType engine raw = "Object" ↔ csharp.mapType engine raw = "object") ∧
    (java.mapType engine raw = "Object[]" ↔ csharp.mapType engine raw = "object[]") ∧
    (java.mapType engine raw ∈ ["Object", "Object[]"] ↔
      java.scalar? engine (TypeName.scalarName engine raw) = none) ∧
    (csharp.mapType engine raw ∈ ["object", "object[]"] ↔
      csharp.scalar? engine (TypeName.scalarName engine raw) = none) ∧
    (∀ name, (java.scalar? engine name).isSome = true → (zod.scalar? engine name).isSome = true) ∧
    (∀ name, (zod.scalar? engine name).isSome = true →
      (typescript.scalar? engine name).isSome = true) ∧
    Inferable (zod.mapType engine raw) (typescript.mapType engine raw) := by
  have hsame : java.scalar? engine (TypeName.scalarName engine raw) = none ↔
      csharp.scalar? engine (TypeName.scalarName engine raw) = none := by
    rw [scalar?_eq_none_iff, scalar?_eq_none_iff, mem_names_csharp_iff]
  refine ⟨?_, ?_, java_marksUnknown.mapType_mem_iff engine raw,
    csharp_marksUnknown.mapType_mem_iff engine raw, ?_, ?_, inferable_mapType engine raw⟩
  · have hjava := java_marksUnknown.mapType_eq_unknown_iff engine raw
    have hcsharp := csharp_marksUnknown.mapType_eq_unknown_iff engine raw
    exact hjava.trans ((and_congr_right fun _ => hsame).trans hcsharp.symm)
  · have hjava := java_marksUnknown.mapType_eq_array_iff engine raw
    have hcsharp := csharp_marksUnknown.mapType_eq_array_iff engine raw
    exact hjava.trans ((and_congr_right fun _ => hsame).trans hcsharp.symm)
  · intro name hknown
    rw [isSome_scalar?_iff] at hknown ⊢
    exact mem_names_zod_of_java engine name hknown
  · intro name hknown
    rw [isSome_scalar?_iff] at hknown ⊢
    exact mem_names_typescript_of_zod engine name hknown

/-- An array of moments in another spelling, and a range that has a TypeScript type alone. -/
theorem moments_and_ranges_agree :
    TypeName.scalarName .postgres "_Timestamp(6)  WITH time zone" = "timestamp with time zone" ∧
    (java.scalar? .postgres "timestamp with time zone").isSome = true ∧
    (zod.scalar? .postgres "timestamp with time zone").isSome = true ∧
    (typescript.scalar? .postgres "timestamp with time zone").isSome = true ∧
    java.mapType .postgres "_Timestamp(6)  WITH time zone" ∉ ["Object", "Object[]"] ∧
    Inferable "array(z.date())" "(string | Date)[]" ∧
    csharp.mapType .postgres "INT4RANGE[]" = "object[]" ∧
    Inferable "array(z.any())" "string[]" := by
  have helement : TypeName.arrayElement? .postgres
      (TypeName.normalize "_Timestamp(6)  WITH time zone") = some "timestamp with time zone" := by
    decide +kernel
  have hname : TypeName.scalarName .postgres "_Timestamp(6)  WITH time zone" =
      "timestamp with time zone" := by
    rw [TypeName.scalarName, helement, Option.getD_some]
  have hjava : (java.scalar? .postgres "timestamp with time zone").isSome = true := by
    decide +kernel
  obtain ⟨-, -, hunknown, -, hzod, htypescript, hmoments⟩ :=
    type_tables_agree .postgres "_Timestamp(6)  WITH time zone"
  obtain ⟨-, harrays, -, -, -, -, hranges⟩ := type_tables_agree .postgres "INT4RANGE[]"
  refine ⟨hname, hjava, hzod _ hjava, htypescript _ (hzod _ hjava), ?_, ?_, ?_, ?_⟩
  · rw [hunknown, hname]
    intro hnone
    rw [hnone] at hjava
    cases hjava
  · have harray : TypeName.isArray .postgres "_Timestamp(6)  WITH time zone" = true := by
      rw [TypeName.isArray, helement, Option.isSome_some]
    have hschema : zod.arrayOf (zod.scalar .postgres "timestamp with time zone") =
        "array(z.date())" := by
      decide +kernel
    have htype : typescript.arrayOf (typescript.scalar .postgres "timestamp with time zone") =
        "(string | Date)[]" := by
      decide +kernel
    rw [mapType_eq, mapType_eq, if_pos harray, if_pos harray, hname, hschema, htype] at hmoments
    exact hmoments
  · exact harrays.mp (by decide +kernel)
  · have hschema : zod.mapType .postgres "INT4RANGE[]" = "array(z.any())" := by decide +kernel
    have htype : typescript.mapType .postgres "INT4RANGE[]" = "string[]" := by decide +kernel
    rw [hschema, htype] at hranges
    exact hranges

end TypeTable

end SchemaCodegen
