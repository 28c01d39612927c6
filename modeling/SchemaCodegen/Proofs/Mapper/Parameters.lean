import SchemaCodegen.Mapper.Statement
import SchemaCodegen.Proofs.Layout.Lines

/-!
# The parameters of a text

A parameter may occur anywhere in a text, also across the seam of two texts that
are put together. It cannot if every number sign opens a parameter that ends
before the seam. Texts of this kind can be put together freely, and the fields
of their parameters are the fields of their parts.
-/

namespace SchemaCodegen

/-- The text before the first occurrence of a character is determined. -/
theorem eq_of_append_cons_eq {c : Char} {xs ys xs' ys' : List Char} (hxs : c ∉ xs)
    (hxs' : c ∉ xs') (h : xs ++ c :: ys = xs' ++ c :: ys') : xs = xs' := by
  induction xs generalizing xs' with
  | nil =>
      cases xs' with
      | nil => rfl
      | cons d rest' =>
          obtain ⟨rfl, -⟩ := List.cons.inj h
          exact absurd List.mem_cons_self hxs'
  | cons d rest ih =>
      cases xs' with
      | nil =>
          obtain ⟨rfl, -⟩ := List.cons.inj h
          exact absurd List.mem_cons_self hxs
      | cons d' rest' =>
          obtain ⟨rfl, htail⟩ := List.cons.inj h
          rw [List.mem_cons, not_or] at hxs hxs'
          rw [ih hxs.2 hxs'.2 htail]

namespace Mapper

/-- Every number sign of the text opens a parameter, and the field of the parameter is allowed. -/
def FieldsIn (allowed : String → Prop) (s : String) : Prop :=
  ∀ before rest : List Char, s.toList = before ++ '#' :: rest →
    ∃ (field : String) (after : List Char),
      rest = '{' :: (field.toList ++ '}' :: after) ∧ '}' ∉ field.toList ∧ allowed field

namespace FieldsIn

variable {allowed : String → Prop}

theorem of_free {s : String} (h : '#' ∉ s.toList) : FieldsIn allowed s := by
  intro before rest hsplit
  rw [hsplit] at h
  exact absurd (List.mem_append_right before List.mem_cons_self) h

theorem append {s t : String} (hs : FieldsIn allowed s) (ht : FieldsIn allowed t) :
    FieldsIn allowed (s ++ t) := by
  intro before rest hsplit
  rw [String.toList_append] at hsplit
  -- the number sign stands in one of the two texts
  rcases List.append_eq_append_iff.mp hsplit with ⟨middle, -, hright⟩ | ⟨middle, hleft, hright⟩
  · exact ht middle rest hright
  · cases middle with
    | nil => exact ht [] rest hright.symm
    | cons c later =>
        obtain ⟨rfl, hlater⟩ := List.cons.inj hright
        obtain ⟨field, after, hrest, hclosed, hallowed⟩ := hs before later hleft
        refine ⟨field, after ++ t.toList, ?_, hclosed, hallowed⟩
        rw [hlater, hrest]
        simp

theorem parameter {field : String} (hopen : '#' ∉ field.toList) (hclosed : '}' ∉ field.toList)
    (h : allowed field) : FieldsIn allowed (parameter field) := by
  intro before rest hsplit
  have htext : (Mapper.parameter field).toList = '#' :: '{' :: (field.toList ++ ['}']) := by
    simp [Mapper.parameter]
  rw [htext] at hsplit
  cases before with
  | nil =>
      obtain ⟨-, htail⟩ := List.cons.inj hsplit
      exact ⟨field, [], htail.symm, hclosed, h⟩
  | cons c before =>
      -- past its first character the parameter has no number sign
      obtain ⟨-, htail⟩ := List.cons.inj hsplit
      have hmem : '#' ∈ '{' :: (field.toList ++ ['}']) := by
        rw [htail]
        exact List.mem_append_right before List.mem_cons_self
      simp [hopen] at hmem

theorem unlines {lines : List String} (h : ∀ s ∈ lines, FieldsIn allowed s) :
    FieldsIn allowed (unlines lines) := by
  induction lines with
  | nil => exact of_free (by decide)
  | cons s rest ih =>
      obtain ⟨hs, hrest⟩ := List.forall_mem_cons.mp h
      rw [unlines_cons]
      exact (hs.append (of_free (by decide))).append (ih hrest)

/-- **Every parameter that occurs has an allowed field.** -/
theorem allowed_of_eq {s : String} (h : FieldsIn allowed s) {before field after : String}
    (hs : s = before ++ Mapper.parameter field ++ after) (hfield : '}' ∉ field.toList) :
    allowed field := by
  have hsplit : s.toList =
      before.toList ++ '#' :: '{' :: (field.toList ++ '}' :: after.toList) := by
    rw [hs]
    simp [Mapper.parameter]
  obtain ⟨found, rest, heq, hclosed, hallowed⟩ := h _ _ hsplit
  obtain ⟨-, htail⟩ := List.cons.inj heq
  have hsame : field = found := String.toList_inj.mp (eq_of_append_cons_eq hfield hclosed htail)
  rwa [hsame]

end FieldsIn

end Mapper

end SchemaCodegen
