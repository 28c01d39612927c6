import Mathlib.Data.List.DropRight
import SchemaCodegen.Proofs.TypeMap.Entries

/-!
# Marks of C# types

A type is marked with a question mark at its end. A text that has some already is
marked no more than it has to be, and what is marked stays as it is when it is
marked again. No type of the table has a mark of its own, so that the type of a
nullable column is that of the table with one mark behind it.
-/

namespace SchemaCodegen

namespace CSharpType

@[simp] theorem toList_withoutMarks (type : String) :
    (withoutMarks type).toList = type.toList.rdropWhile (· == '?') := by
  rw [withoutMarks, String.toList_ofList]
  rfl

@[simp] theorem withoutMarks_append_mark (type : String) :
    withoutMarks (type ++ "?") = withoutMarks type := by
  have hmark : (type ++ "?").toList = type.toList ++ ['?'] := String.toList_append
  rw [← String.toList_inj, toList_withoutMarks, toList_withoutMarks, hmark,
    List.rdropWhile_concat_pos _ _ _ (by decide)]

@[simp] theorem withoutMarks_withoutMarks (type : String) :
    withoutMarks (withoutMarks type) = withoutMarks type := by
  simp [← String.toList_inj, List.rdropWhile_idempotent]

/-- No mark is left at the end. -/
theorem not_suffix_withoutMarks (type : String) : ¬ ['?'] <:+ (withoutMarks type).toList := by
  rintro ⟨front, hfront⟩
  have hlast := toList_withoutMarks (withoutMarks type)
  rw [withoutMarks_withoutMarks, ← hfront, List.rdropWhile_concat_pos _ _ _ (by decide)] at hlast
  have hlength := congrArg List.length hlast
  have hle := (List.rdropWhile_prefix (· == '?') front).length_le
  rw [List.length_append, List.length_singleton] at hlength
  omega

theorem withoutMarks_of_not_mem {type : String} (h : '?' ∉ type.toList) :
    withoutMarks type = type := by
  rw [← String.toList_inj, toList_withoutMarks, List.rdropWhile_eq_self_iff]
  intro hne hmark
  apply h
  rw [← beq_iff_eq.mp hmark]
  exact List.getLast_mem hne

/-- The three forms that a marked type can have. -/
theorem markNullable_cases (type : String) :
    isValueType type = true ∧ markNullable type = withoutMarks type ++ "?" ∨
      isValueType type = false ∧ ['?'] <:+ type.toList ∧ markNullable type = type ∨
      isValueType type = false ∧ ¬ ['?'] <:+ type.toList ∧ markNullable type = type ++ "?" := by
  rw [markNullable]
  cases isValueType type with
  | true => exact Or.inl ⟨rfl, if_pos rfl⟩
  | false =>
      rw [if_neg Bool.false_ne_true]
      by_cases hmarked : ['?'] <:+ type.toList
      · rw [if_pos (List.isSuffixOf_iff_suffix.mpr hmarked)]
        exact Or.inr (Or.inl ⟨rfl, hmarked, rfl⟩)
      · rw [if_neg (fun h => hmarked (List.isSuffixOf_iff_suffix.mp h))]
        exact Or.inr (Or.inr ⟨rfl, hmarked, rfl⟩)

theorem suffix_append_mark (type : String) : ['?'] <:+ (type ++ "?").toList := by
  rw [String.toList_append]
  exact List.suffix_append _ _

theorem suffix_markNullable (type : String) : ['?'] <:+ (markNullable type).toList := by
  rcases markNullable_cases type with ⟨-, heq⟩ | ⟨-, hmarked, heq⟩ | ⟨-, -, heq⟩
  · rw [heq]
    exact suffix_append_mark _
  · rw [heq]
    exact hmarked
  · rw [heq]
    exact suffix_append_mark _

@[simp] theorem withoutMarks_markNullable (type : String) :
    withoutMarks (markNullable type) = withoutMarks type := by
  rcases markNullable_cases type with ⟨-, heq⟩ | ⟨-, -, heq⟩ | ⟨-, -, heq⟩
  · simp [heq]
  · rw [heq]
  · simp [heq]

/-- What is marked stays as it is. -/
theorem markNullable_markNullable (type : String) :
    markNullable (markNullable type) = markNullable type := by
  rcases markNullable_cases (markNullable type) with ⟨hvalue, heq⟩ | ⟨-, -, heq⟩ | ⟨-, hmarked, -⟩
  · rw [isValueType, withoutMarks_markNullable, ← isValueType] at hvalue
    rw [heq, withoutMarks_markNullable, markNullable, if_pos hvalue]
  · exact heq
  · exact absurd (suffix_markNullable type) hmarked

/-- A type without marks gets one. -/
theorem markNullable_of_not_mem {type : String} (h : '?' ∉ type.toList) :
    markNullable type = type ++ "?" := by
  rcases markNullable_cases type with ⟨-, heq⟩ | ⟨-, hmarked, -⟩ | ⟨-, -, heq⟩
  · rw [heq, withoutMarks_of_not_mem h]
  · exact absurd (hmarked.subset (List.mem_singleton.mpr rfl)) h
  · exact heq

end CSharpType

/-- No type of the table has a mark of its own. -/
theorem TypeTable.mark_not_mem_csharp (engine : Engine) (raw : String) :
    '?' ∉ (csharp.mapType engine raw).toList := by
  refine mapType_of_scalar (t := csharp) (P := fun type => '?' ∉ type.toList) ?_ ?_ engine raw
  · decide
  · intro engine
    cases engine <;> decide

/-- The type of a nullable column has one mark, at its end. -/
theorem CSharpType.markNullable_mapType (engine : Engine) (raw : String) :
    markNullable (TypeTable.csharp.mapType engine raw) =
      TypeTable.csharp.mapType engine raw ++ "?" :=
  markNullable_of_not_mem (TypeTable.mark_not_mem_csharp engine raw)

end SchemaCodegen
