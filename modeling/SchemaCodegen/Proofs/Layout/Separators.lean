import SchemaCodegen.Layout.Fragment

/-!
# What is joined or separated

Lists of items are written with a separator behind every item but the last, and
groups of lines with an empty line between two. Separating keeps the items and
their order, and whether a separator stands behind an item is a matter of its
place alone.
-/

namespace SchemaCodegen

/-! ## Joined words -/

/-- What stands in a list of joined words stands in the separator or in a word. -/
theorem mem_of_mem_intercalate {α : Type} {separator : List α} {words : List (List α)} {a : α}
    (h : a ∈ separator.intercalate words) : a ∈ separator ∨ ∃ word ∈ words, a ∈ word := by
  induction words with
  | nil => cases h
  | cons first rest ih =>
      cases rest with
      | nil =>
          rw [List.intercalate_singleton] at h
          exact .inr ⟨first, List.mem_singleton_self first, h⟩
      | cons second rest =>
          simp only [List.intercalate_cons_cons, List.mem_append] at h
          obtain (h | h) | h := h
          · exact .inr ⟨first, List.mem_cons_self, h⟩
          · exact .inl h
          · obtain hseparator | ⟨word, hword, hmem⟩ := ih h
            · exact .inl hseparator
            · exact .inr ⟨word, List.mem_cons_of_mem first hword, hmem⟩

/-- Joined words as a loop comes to them: the separator stands in front of every word but the
first. -/
theorem intercalate_cons_eq {α : Type} (separator first : List α) (rest : List (List α)) :
    separator.intercalate (first :: rest) = first ++ rest.flatMap (separator ++ ·) := by
  induction rest generalizing first with
  | nil => simp
  | cons second rest ih =>
      simp only [List.intercalate_cons_cons, ih, List.flatMap_cons, List.append_assoc]

/-- Joining loses nothing of the words. -/
theorem mem_intercalate_of_mem {α : Type} {separator word : List α} {words : List (List α)} {a : α}
    (hword : word ∈ words) (ha : a ∈ word) : a ∈ separator.intercalate words := by
  cases words with
  | nil => cases hword
  | cons first rest =>
      rw [intercalate_cons_eq, List.mem_append, List.mem_flatMap]
      rcases List.mem_cons.mp hword with rfl | hrest
      · exact Or.inl ha
      · exact Or.inr ⟨word, hrest, List.mem_append_right separator ha⟩

section Append

variable {α β : Type} {f : List α → List β} (hnil : f [] = [])
  (happend : ∀ xs ys, f (xs ++ ys) = f xs ++ f ys)
include hnil happend

/-- What is read part by part is read group by group. -/
theorem map_flatten_of_append (groups : List (List α)) :
    f groups.flatten = (groups.map f).flatten := by
  induction groups with
  | nil => exact hnil
  | cons first rest ih => simp [happend, ih]

/-- And what stands between two groups is read by itself. -/
theorem map_intercalate_of_append (separator : List α) (groups : List (List α)) :
    f (separator.intercalate groups) = (f separator).intercalate (groups.map f) := by
  induction groups with
  | nil => exact hnil
  | cons first rest ih =>
      cases rest with
      | nil => simp
      | cons second rest =>
          rw [List.intercalate_cons_cons, happend, happend, ih]
          simp

end Append

/-! ## Separated items -/

theorem map_eq_mapIdx {α β : Type} (f : α → β) (xs : List α) :
    xs.map f = xs.mapIdx fun _ x => f x := by
  apply List.ext_getElem?
  intro i
  simp only [List.getElem?_mapIdx, List.getElem?_map]

@[simp] theorem mapIdx_map {α β γ : Type} (f : Nat → β → γ) (g : α → β) (xs : List α) :
    (xs.map g).mapIdx f = xs.mapIdx fun i x => f i (g x) := by
  apply List.ext_getElem?
  intro i
  simp only [List.getElem?_mapIdx, List.getElem?_map, Option.map_map, Function.comp_def]

/-- The separator stands behind every item but the last. -/
theorem withSeparators_eq_mapIdx {α : Type} (separator : String) (items : List α) :
    withSeparators separator items =
      items.mapIdx fun i item => (item, if i + 1 == items.length then "" else separator) := by
  induction items with
  | nil => rfl
  | cons first rest ih =>
      cases rest with
      | nil => rfl
      | cons second rest =>
          rw [withSeparators, ih, List.mapIdx_cons (l := second :: rest)]
          congr 1
          apply List.ext_getElem?
          intro i
          simp only [List.getElem?_mapIdx, List.length_cons, Nat.add_right_cancel_iff, beq_iff_eq]

/-- Separating items keeps them, and puts the separator or nothing behind each. -/
theorem mem_withSeparators {α : Type} {separator : String} {items : List α} {item : α × String}
    (h : item ∈ withSeparators separator items) :
    item.1 ∈ items ∧ (item.2 = separator ∨ item.2 = "") := by
  rw [withSeparators_eq_mapIdx, List.mem_mapIdx] at h
  obtain ⟨i, hi, rfl⟩ := h
  refine ⟨List.getElem_mem hi, ?_⟩
  split
  · exact Or.inr rfl
  · exact Or.inl rfl

/-- The separator behind an item does not depend on what the item is. -/
@[simp]
theorem withSeparators_map {α β : Type} (separator : String) (f : α → β) (items : List α) :
    withSeparators separator (items.map f) =
      (withSeparators separator items).map fun item => (f item.1, item.2) := by
  rw [withSeparators_eq_mapIdx, withSeparators_eq_mapIdx, mapIdx_map, List.length_map,
    map_eq_mapIdx, List.mapIdx_mapIdx]
  rfl

theorem withSeparators_concat {α : Type} (separator : String) (front : List α) (last : α) :
    withSeparators separator (front ++ [last]) =
      front.map (fun item => (item, separator)) ++ [(last, "")] := by
  induction front with
  | nil => rfl
  | cons first front ih =>
      cases front with
      | nil => rfl
      | cons second front =>
          rw [List.cons_append, List.cons_append, withSeparators, ← List.cons_append, ih,
            List.map_cons (l := second :: front), List.cons_append]

/-- What is made of separated items is made of the items one by one. -/
theorem zipWith_withSeparators {α β γ : Type} (separator : String) (items : List α)
    (f : α → β → γ) (g : α × String → β) :
    List.zipWith f items ((withSeparators separator items).map g) =
      (withSeparators separator items).map fun item => f item.1 (g item) := by
  fun_induction withSeparators separator items with
  | case1 => rfl
  | case2 a => rfl
  | case3 a b rest ih => simp [ih]

/-- Lines that show items, one for each and in order: all but the last with a comma behind the
item, the last with nothing behind it. -/
structure Separated (items lines : List String) : Prop where
  length_eq : lines.length = items.length
  front : lines.dropLast = items.dropLast.map (· ++ ",")
  last : lines.getLast? = items.getLast?

theorem separated_concat (front : List String) (last : String) :
    Separated (front ++ [last]) (front.map (· ++ ",") ++ [last]) := by
  constructor
  · simp
  · simp only [List.dropLast_concat]
  · simp

theorem separated_withSeparators {α : Type} (text : α → String) (items : List α) :
    Separated (items.map text)
      ((withSeparators "," items).map fun item => text item.1 ++ item.2) := by
  rcases items.eq_nil_or_concat with rfl | ⟨front, last, rfl⟩
  · exact ⟨rfl, rfl, rfl⟩
  · have hlast : text last ++ "" = text last := String.append_empty
    have hshown := separated_concat (front.map text) (text last)
    rw [List.map_map] at hshown
    simp only [List.concat_eq_append, withSeparators_concat, List.map_append, List.map_map,
      List.map_singleton, hlast]
    exact hshown

/-- A comma at the end of a line or a comma in front of a break is the same. -/
theorem intercalate_comma_concat (front : List String) (last : String) :
    "\n".intercalate (front.map (· ++ ",") ++ [last]) = ",\n".intercalate (front ++ [last]) := by
  induction front with
  | nil => simp
  | cons first front ih =>
      have hbreak : first ++ "," ++ "\n" = first ++ ",\n" := by
        rw [String.append_assoc]
        rfl
      rw [List.map_cons, List.cons_append, List.cons_append,
        String.intercalate_cons_of_ne_nil (by simp), String.intercalate_cons_of_ne_nil (by simp),
        ih, hbreak]

/-- Separated lines are the items with a comma and a break between two of them. -/
theorem Separated.intercalate_eq {items lines : List String} (h : Separated items lines) :
    "\n".intercalate lines = ",\n".intercalate items := by
  rcases items.eq_nil_or_concat with rfl | ⟨front, last, rfl⟩
  · rw [List.length_eq_zero_iff.mp h.length_eq, String.intercalate_nil, String.intercalate_nil]
  · rw [List.concat_eq_append] at h ⊢
    -- the last line is told apart, and the others are the items with their commas
    obtain ⟨others, rfl⟩ := List.getLast?_eq_some_iff.mp (h.last.trans List.getLast?_concat)
    have hfront := h.front
    simp only [List.dropLast_concat] at hfront
    rw [hfront, intercalate_comma_concat]

end SchemaCodegen
