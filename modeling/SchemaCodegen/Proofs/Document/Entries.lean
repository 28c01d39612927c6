import Mathlib.Data.List.Perm.Basic
import Mathlib.Data.String.Basic
import SchemaCodegen.Document.Value

/-!
# Entries in the order of their keys

An object lists its entries with strictly increasing keys. A document may give
them in any order: they are put at their places one by one, and what comes out
depends on the entries alone.
-/

namespace SchemaCodegen.Document

variable {α : Type}

/-- The keys of entries increase strictly, so that no key stands twice. -/
def KeysIncrease (entries : List (String × α)) : Prop :=
  entries.Pairwise fun a b => a.1 < b.1

instance (entries : List (String × α)) : Decidable (KeysIncrease entries) :=
  inferInstanceAs (Decidable (entries.Pairwise fun a b => a.1 < b.1))

/-- The objects that values list are in the order of their keys. -/
def Value.KeysIncrease : Value → Prop
  | .object entries => Document.KeysIncrease entries
  | _ => True

/-- What a value has under a key. Only objects have something. -/
def Value.get? : Value → String → Option Value
  | .object entries, key => entries.lookup key
  | _, _ => none

/-! ## Looking up keys -/

theorem KeysIncrease.tail {entry : String × α} {rest : List (String × α)}
    (h : KeysIncrease (entry :: rest)) : KeysIncrease rest :=
  (List.pairwise_cons.mp h).2

/-- The first key does not stand again. -/
theorem KeysIncrease.lookup_tail {key : String} {value : α} {rest : List (String × α)}
    (h : KeysIncrease ((key, value) :: rest)) : rest.lookup key = none := by
  rw [List.lookup_eq_none_iff]
  intro other hother
  have hlt : key < other.1 := (List.pairwise_cons.mp h).1 other hother
  simpa using hlt.ne

/-- Among distinct keys an entry is found under its key. -/
theorem mem_iff_lookup {entries : List (String × α)} (h : (entries.map Prod.fst).Nodup)
    {key : String} {value : α} : (key, value) ∈ entries ↔ entries.lookup key = some value := by
  induction entries with
  | nil => simp
  | cons entry rest ih =>
      obtain ⟨k, v⟩ := entry
      rw [List.map_cons, List.nodup_cons] at h
      obtain ⟨hfirst, hrest⟩ := h
      by_cases hkey : key = k
      · subst hkey
        rw [List.lookup_cons_self, List.mem_cons, Prod.mk.injEq, Option.some.injEq]
        constructor
        · rintro (⟨-, rfl⟩ | hmem)
          · rfl
          · exact absurd (List.mem_map.mpr ⟨_, hmem, rfl⟩) hfirst
        · rintro rfl
          exact Or.inl ⟨rfl, rfl⟩
      · have hne : (key == k) = false := by simpa using hkey
        rw [List.lookup_cons, hne]
        simp [hkey, ih hrest]

theorem KeysIncrease.nodup_keys {entries : List (String × α)} (h : KeysIncrease entries) :
    (entries.map Prod.fst).Nodup :=
  (List.pairwise_map.mpr h).imp fun hlt => hlt.ne

theorem KeysIncrease.mem_iff_lookup {entries : List (String × α)} (h : KeysIncrease entries)
    {key : String} {value : α} : (key, value) ∈ entries ↔ entries.lookup key = some value :=
  Document.mem_iff_lookup h.nodup_keys

/-- Increasing keys leave one order only. -/
theorem KeysIncrease.eq_of_perm {entries others : List (String × α)} (h : KeysIncrease entries)
    (hothers : KeysIncrease others) (hperm : entries.Perm others) : entries = others := by
  apply hperm.eq_of_pairwise _ h hothers
  intro a b _ _ hlt hgt
  exact absurd hgt hlt.asymm

/-- Entries with increasing keys are known by what stands under each key. -/
theorem KeysIncrease.ext {entries others : List (String × α)} (h : KeysIncrease entries)
    (hothers : KeysIncrease others) (hlookup : ∀ key, entries.lookup key = others.lookup key) :
    entries = others := by
  have hnodup : ∀ {list : List (String × α)}, KeysIncrease list → list.Nodup := by
    intro list hlist
    apply hlist.imp
    rintro a b hlt rfl
    exact lt_irrefl _ hlt
  apply h.eq_of_perm hothers
  rw [List.perm_ext_iff_of_nodup (hnodup h) (hnodup hothers)]
  rintro ⟨key, value⟩
  rw [h.mem_iff_lookup, hothers.mem_iff_lookup, hlookup]

/-! ## Entries in any order -/

/-- A new entry joins the others. -/
theorem insertEntry_perm {key : String} {entries : List (String × α)}
    (h : ∀ entry ∈ entries, entry.1 ≠ key) (value : α) :
    (insertEntry key value entries).Perm ((key, value) :: entries) := by
  induction entries with
  | nil => exact List.Perm.refl _
  | cons entry rest ih =>
      obtain ⟨k, v⟩ := entry
      obtain ⟨hne, hrest⟩ := List.forall_mem_cons.mp h
      rw [insertEntry]
      by_cases hlt : key < k
      · rw [if_pos hlt]
      · rw [if_neg hlt, if_neg (Ne.symm hne)]
        exact ((ih hrest).cons _).trans (List.Perm.swap _ _ _)

theorem mem_insertEntry {key : String} {value : α} {entries : List (String × α)}
    {entry : String × α} (h : entry ∈ insertEntry key value entries) :
    entry = (key, value) ∨ entry ∈ entries := by
  induction entries with
  | nil => exact Or.inl (List.mem_singleton.mp h)
  | cons first rest ih =>
      rw [insertEntry] at h
      split at h
      · exact List.mem_cons.mp h
      · split at h
        · rcases List.mem_cons.mp h with rfl | h
          · exact Or.inl rfl
          · exact Or.inr (List.mem_cons_of_mem _ h)
        · rcases List.mem_cons.mp h with rfl | h
          · exact Or.inr (List.mem_cons_self ..)
          · exact (ih h).imp_right (List.mem_cons_of_mem _)

theorem keysIncrease_insertEntry {entries : List (String × α)} (h : KeysIncrease entries)
    (key : String) (value : α) : KeysIncrease (insertEntry key value entries) := by
  induction entries with
  | nil => exact List.pairwise_singleton _ _
  | cons entry rest ih =>
      obtain ⟨k, v⟩ := entry
      obtain ⟨hfirst, hrest⟩ := List.pairwise_cons.mp h
      rw [insertEntry]
      rcases lt_trichotomy key k with hlt | rfl | hgt
      · rw [if_pos hlt]
        refine List.pairwise_cons.mpr ⟨?_, h⟩
        intro other hother
        rcases List.mem_cons.mp hother with rfl | hother
        · exact hlt
        · exact hlt.trans (hfirst other hother)
      · rw [if_neg (lt_irrefl key), if_pos rfl]
        exact List.pairwise_cons.mpr ⟨hfirst, hrest⟩
      · rw [if_neg hgt.not_gt, if_neg hgt.ne']
        refine List.pairwise_cons.mpr ⟨?_, ih hrest⟩
        intro other hother
        rcases mem_insertEntry hother with rfl | hother
        · exact hgt
        · exact hfirst other hother

/-- Entries with distinct keys all find their places. The induction is on the entries that are
left; those that are placed already are in order. -/
theorem foldl_insertEntry {left placed : List (String × α)} (hplaced : KeysIncrease placed)
    (hdistinct : ((left ++ placed).map Prod.fst).Nodup) :
    let all := left.foldl (fun sorted entry => insertEntry entry.1 entry.2 sorted) placed
    KeysIncrease all ∧ all.Perm (left ++ placed) := by
  induction left generalizing placed with
  | nil => exact ⟨hplaced, List.Perm.refl _⟩
  | cons entry left ih =>
      obtain ⟨key, value⟩ := entry
      rw [List.cons_append, List.map_cons, List.nodup_cons] at hdistinct
      obtain ⟨hnew, hrest⟩ := hdistinct
      have hfresh : ∀ other ∈ placed, other.1 ≠ key := by
        rintro other hother rfl
        exact hnew (List.mem_map.mpr ⟨other, List.mem_append_right _ hother, rfl⟩)
      -- the entry moves from those that are left to those that are placed
      have hmoved :
          (left ++ insertEntry key value placed).Perm ((key, value) :: (left ++ placed)) :=
        ((insertEntry_perm hfresh value).append_left left).trans List.perm_middle
      have hkeys : ((left ++ insertEntry key value placed).map Prod.fst).Nodup := by
        rw [(hmoved.map Prod.fst).nodup_iff, List.map_cons, List.nodup_cons]
        exact ⟨hnew, hrest⟩
      obtain ⟨hsorted, hperm⟩ := ih (keysIncrease_insertEntry hplaced key value) hkeys
      exact ⟨hsorted, hperm.trans hmoved⟩

/-- **Entries come to the same object in whatever order they are written.** -/
theorem sortEntries_of_perm {entries written : List (String × α)} (h : KeysIncrease entries)
    (hperm : written.Perm entries) : sortEntries written = entries := by
  have hdistinct : ((written ++ []).map Prod.fst).Nodup := by
    rw [List.append_nil, (hperm.map Prod.fst).nodup_iff]
    exact h.nodup_keys
  obtain ⟨hsorted, hsame⟩ := foldl_insertEntry List.Pairwise.nil hdistinct
  rw [List.append_nil] at hsame
  exact hsorted.eq_of_perm h (hsame.trans hperm)

/-! ## Entries of one key -/

theorem lookup_insertEntry (key : String) (value : α) (entries : List (String × α))
    (other : String) :
    (insertEntry key value entries).lookup other =
      if other = key then some value else entries.lookup other := by
  induction entries with
  | nil =>
      by_cases h : other = key
      · simp [insertEntry, h]
      · rw [insertEntry, List.lookup_cons, beq_false_of_ne h, if_neg h]
  | cons entry rest ih =>
      obtain ⟨k, v⟩ := entry
      rw [insertEntry]
      -- the place among the entries does not matter to other keys
      by_cases h : other = key
      · subst h
        rw [if_pos rfl] at ih ⊢
        split
        · exact List.lookup_cons_self
        · split
          · exact List.lookup_cons_self
          · next hne =>
              rw [List.lookup_cons, beq_false_of_ne hne]
              exact ih
      · rw [if_neg h] at ih ⊢
        split
        · rw [List.lookup_cons, beq_false_of_ne h]
        · split
          · next heq =>
              subst heq
              simp only [List.lookup_cons, beq_false_of_ne h]
          · simp only [List.lookup_cons, ih]

/-- The last entry of a key counts, before what was placed under the key already. -/
theorem foldl_insertEntry_lookup {placed : List (String × α)} (h : KeysIncrease placed)
    (entries : List (String × α)) :
    let all := entries.foldl (fun sorted entry => insertEntry entry.1 entry.2 sorted) placed
    KeysIncrease all ∧ ∀ key, all.lookup key =
      ((entries.filter (·.1 == key)).getLast?.map Prod.snd).or (placed.lookup key) := by
  induction entries generalizing placed with
  | nil => exact ⟨h, fun _ => rfl⟩
  | cons entry rest ih =>
      obtain ⟨hsorted, hlookup⟩ := ih (keysIncrease_insertEntry h entry.1 entry.2)
      refine ⟨hsorted, ?_⟩
      intro key
      rw [List.foldl_cons, hlookup, lookup_insertEntry, List.filter_cons]
      by_cases hkey : key = entry.1
      · subst hkey
        rw [if_pos rfl, if_pos (beq_self_eq_true _), List.getLast?_cons]
        cases (rest.filter (·.1 == entry.1)).getLast? <;> rfl
      · rw [if_neg hkey, beq_false_of_ne (Ne.symm hkey), if_neg Bool.false_ne_true]

/-- **Objects differ only by what is written under some key.** -/
theorem sortEntries_congr {entries others : List (String × α)}
    (h : ∀ key, entries.filter (·.1 == key) = others.filter (·.1 == key)) :
    sortEntries entries = sortEntries others := by
  obtain ⟨hsorted, hlookup⟩ := foldl_insertEntry_lookup List.Pairwise.nil entries
  obtain ⟨hothers, hlookup'⟩ := foldl_insertEntry_lookup List.Pairwise.nil others
  apply hsorted.ext hothers
  intro key
  rw [hlookup, hlookup', h]

end SchemaCodegen.Document
